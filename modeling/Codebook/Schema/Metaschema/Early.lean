import Codebook.Schema.Metaschema.Basic

/-!
# The third and the fourth draft

The schemas that describe schemas of the third and the fourth draft.
-/

namespace Codebook.Metaschema

/-- The schema of schemas of the third draft. -/
def draft3 : Document :=
  .ofFields
    [
      ("$schema", .ofText (addressOf "draft-03/schema#")),
      ("id", .ofText (addressOf "draft-03/schema#")), ("type", .ofText "object"),
      ("properties",
        .ofFields
          [
            ("type",
              .ofFields
                [
                  ("type", texts ["string", "array"]),
                  ("items", .ofFields [("type", .list [.ofText "string", reference "#"])]),
                  ("uniqueItems", .ofFlag true), ("default", .ofText "any")
                ]),
            ("properties",
              .ofFields
                [
                  ("type", .ofText "object"),
                  ("additionalProperties",
                    .ofFields [("$ref", .ofText "#"), ("type", .ofText "object")]),
                  ("default", .ofFields [])
                ]),
            ("patternProperties",
              .ofFields
                [
                  ("type", .ofText "object"), ("additionalProperties", reference "#"),
                  ("default", .ofFields [])
                ]),
            ("additionalProperties",
              .ofFields
                [
                  ("type", .list [reference "#", .ofText "boolean"]), ("default", .ofFields [])
                ]),
            ("items",
              .ofFields
                [
                  ("type", .list [reference "#", .ofText "array"]), ("items", reference "#"),
                  ("default", .ofFields [])
                ]),
            ("additionalItems",
              .ofFields
                [
                  ("type", .list [reference "#", .ofText "boolean"]), ("default", .ofFields [])
                ]),
            ("required", optionalFlag),
            ("dependencies",
              .ofFields
                [
                  ("type", .ofText "object"),
                  ("additionalProperties",
                    .ofFields
                      [
                        ("type", .list [.ofText "string", .ofText "array", reference "#"]),
                        ("items", typed "string")
                      ]),
                  ("default", .ofFields [])
                ]),
            ("minimum", typed "number"), ("maximum", typed "number"),
            ("exclusiveMinimum", optionalFlag), ("exclusiveMaximum", optionalFlag),
            ("minItems",
              .ofFields [("type", .ofText "integer"), ("minimum", .ofInt 0), ("default", .ofInt 0)]),
            ("maxItems", .ofFields [("type", .ofText "integer"), ("minimum", .ofInt 0)]),
            ("uniqueItems", optionalFlag), ("pattern", formatted "regex"),
            ("minLength",
              .ofFields [("type", .ofText "integer"), ("minimum", .ofInt 0), ("default", .ofInt 0)]),
            ("maxLength", typed "integer"),
            ("enum",
              .ofFields
                [
                  ("type", .ofText "array"), ("minItems", .ofInt 1), ("uniqueItems", .ofFlag true)
                ]),
            ("default", typed "any"), ("title", typed "string"), ("description", typed "string"),
            ("format", typed "string"),
            ("divisibleBy",
              .ofFields
                [
                  ("type", .ofText "number"), ("minimum", .ofInt 0),
                  ("exclusiveMinimum", .ofFlag true), ("default", .ofInt 1)
                ]),
            ("disallow",
              .ofFields
                [
                  ("type", texts ["string", "array"]),
                  ("items", .ofFields [("type", .list [.ofText "string", reference "#"])]),
                  ("uniqueItems", .ofFlag true)
                ]),
            ("extends",
              .ofFields
                [
                  ("type", .list [reference "#", .ofText "array"]), ("items", reference "#"),
                  ("default", .ofFields [])
                ]),
            ("id", typed "string"), ("$ref", typed "string"), ("$schema", formatted "uri")
          ]),
      ("dependencies",
        .ofFields [("exclusiveMinimum", .ofText "minimum"), ("exclusiveMaximum", .ofText "maximum")]),
      ("default", .ofFields [])
    ]

/-- The schema of schemas of the fourth draft. -/
def draft4 : Document :=
  .ofFields
    [
      ("id", .ofText (addressOf "draft-04/schema#")),
      ("$schema", .ofText (addressOf "draft-04/schema#")),
      ("description", .ofText "Core schema meta-schema"),
      ("definitions",
        .ofFields
          [
            ("schemaArray",
              .ofFields
                [
                  ("type", .ofText "array"), ("minItems", .ofInt 1), ("items", reference "#")
                ]),
            ("positiveInteger", .ofFields [("type", .ofText "integer"), ("minimum", .ofInt 0)]),
            ("positiveIntegerDefault0",
              .ofFields
                [
                  ("allOf",
                    .list
                      [
                        reference "#/definitions/positiveInteger", .ofFields [("default", .ofInt 0)]
                      ])
                ]),
            ("simpleTypes",
              .ofFields
                [
                  ("enum",
                    texts ["array", "boolean", "integer", "null", "number", "object", "string"])
                ]),
            ("stringArray",
              .ofFields
                [
                  ("type", .ofText "array"), ("items", typed "string"), ("minItems", .ofInt 1),
                  ("uniqueItems", .ofFlag true)
                ])
          ]),
      ("type", .ofText "object"),
      ("properties",
        .ofFields
          [
            ("id", typed "string"), ("$schema", typed "string"), ("title", typed "string"),
            ("description", typed "string"), ("default", .ofFields []),
            ("multipleOf",
              .ofFields
                [
                  ("type", .ofText "number"), ("minimum", .ofInt 0),
                  ("exclusiveMinimum", .ofFlag true)
                ]),
            ("maximum", typed "number"), ("exclusiveMaximum", typed "boolean"),
            ("minimum", typed "number"), ("exclusiveMinimum", typed "boolean"),
            ("maxLength", reference "#/definitions/positiveInteger"),
            ("minLength", reference "#/definitions/positiveIntegerDefault0"),
            ("pattern", formatted "regex"),
            ("additionalItems",
              .ofFields
                [
                  ("anyOf", .list [typed "boolean", reference "#"]), ("default", .ofFields [])
                ]),
            ("items",
              .ofFields
                [
                  ("anyOf", .list [reference "#", reference "#/definitions/schemaArray"]),
                  ("default", .ofFields [])
                ]),
            ("maxItems", reference "#/definitions/positiveInteger"),
            ("minItems", reference "#/definitions/positiveIntegerDefault0"),
            ("uniqueItems", optionalFlag),
            ("maxProperties", reference "#/definitions/positiveInteger"),
            ("minProperties", reference "#/definitions/positiveIntegerDefault0"),
            ("required", reference "#/definitions/stringArray"),
            ("additionalProperties",
              .ofFields
                [
                  ("anyOf", .list [typed "boolean", reference "#"]), ("default", .ofFields [])
                ]),
            ("definitions",
              .ofFields
                [
                  ("type", .ofText "object"), ("additionalProperties", reference "#"),
                  ("default", .ofFields [])
                ]),
            ("properties",
              .ofFields
                [
                  ("type", .ofText "object"), ("additionalProperties", reference "#"),
                  ("default", .ofFields [])
                ]),
            ("patternProperties",
              .ofFields
                [
                  ("type", .ofText "object"), ("additionalProperties", reference "#"),
                  ("default", .ofFields [])
                ]),
            ("dependencies",
              .ofFields
                [
                  ("type", .ofText "object"),
                  ("additionalProperties",
                    .ofFields
                      [
                        ("anyOf", .list [reference "#", reference "#/definitions/stringArray"])
                      ])
                ]),
            ("enum",
              .ofFields
                [
                  ("type", .ofText "array"), ("minItems", .ofInt 1), ("uniqueItems", .ofFlag true)
                ]),
            ("type",
              .ofFields
                [
                  ("anyOf",
                    .list
                      [
                        reference "#/definitions/simpleTypes",
                        .ofFields
                          [
                            ("type", .ofText "array"),
                            ("items", reference "#/definitions/simpleTypes"),
                            ("minItems", .ofInt 1), ("uniqueItems", .ofFlag true)
                          ]
                      ])
                ]),
            ("format", typed "string"), ("allOf", reference "#/definitions/schemaArray"),
            ("anyOf", reference "#/definitions/schemaArray"),
            ("oneOf", reference "#/definitions/schemaArray"), ("not", reference "#")
          ]),
      ("dependencies",
        .ofFields [("exclusiveMaximum", texts ["maximum"]), ("exclusiveMinimum", texts ["minimum"])]),
      ("default", .ofFields [])
    ]

end Codebook.Metaschema
