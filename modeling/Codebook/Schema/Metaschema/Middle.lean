import Codebook.Schema.Metaschema.Basic

/-!
# The sixth and the seventh draft

The schemas that describe schemas of the sixth and the seventh draft.
-/

namespace Codebook.Metaschema

/-- The schema of schemas of the sixth draft. -/
def draft6 : Document :=
  .ofFields
    [
      ("$schema", .ofText (addressOf "draft-06/schema#")),
      ("$id", .ofText (addressOf "draft-06/schema#")), ("title", .ofText "Core schema meta-schema"),
      ("definitions",
        .ofFields
          [
            ("schemaArray",
              .ofFields
                [
                  ("type", .ofText "array"), ("minItems", .ofInt 1), ("items", reference "#")
                ]),
            ("nonNegativeInteger", .ofFields [("type", .ofText "integer"), ("minimum", .ofInt 0)]),
            ("nonNegativeIntegerDefault0",
              .ofFields
                [
                  ("allOf",
                    .list
                      [
                        reference "#/definitions/nonNegativeInteger",
                        .ofFields [("default", .ofInt 0)]
                      ])
                ]),
            ("simpleTypes",
              .ofFields
                [
                  ("enum",
                    texts ["array", "boolean", "integer", "null", "number", "object", "string"])
                ]),
            ("stringArray",
              .ofFields
                [
                  ("type", .ofText "array"), ("items", typed "string"),
                  ("uniqueItems", .ofFlag true), ("default", .list [])
                ])
          ]),
      ("type", texts ["object", "boolean"]),
      ("properties",
        .ofFields
          [
            ("$id", formatted "uri-reference"), ("$schema", formatted "uri"),
            ("$ref", formatted "uri-reference"), ("title", typed "string"),
            ("description", typed "string"), ("default", .ofFields []),
            ("examples", .ofFields [("type", .ofText "array"), ("items", .ofFields [])]),
            ("multipleOf", .ofFields [("type", .ofText "number"), ("exclusiveMinimum", .ofInt 0)]),
            ("maximum", typed "number"), ("exclusiveMaximum", typed "number"),
            ("minimum", typed "number"), ("exclusiveMinimum", typed "number"),
            ("maxLength", reference "#/definitions/nonNegativeInteger"),
            ("minLength", reference "#/definitions/nonNegativeIntegerDefault0"),
            ("pattern", formatted "regex"), ("additionalItems", reference "#"),
            ("items",
              .ofFields
                [
                  ("anyOf", .list [reference "#", reference "#/definitions/schemaArray"]),
                  ("default", .ofFields [])
                ]),
            ("maxItems", reference "#/definitions/nonNegativeInteger"),
            ("minItems", reference "#/definitions/nonNegativeIntegerDefault0"),
            ("uniqueItems", optionalFlag), ("contains", reference "#"),
            ("maxProperties", reference "#/definitions/nonNegativeInteger"),
            ("minProperties", reference "#/definitions/nonNegativeIntegerDefault0"),
            ("required", reference "#/definitions/stringArray"),
            ("additionalProperties", reference "#"),
            ("definitions",
              .ofFields
                [
                  ("type", .ofText "object"), ("additionalProperties", reference "#"),
                  ("default", .ofFields [])
                ]),
            ("properties",
              .ofFields
                [
                  ("type", .ofText "object"), ("additionalProperties", reference "#"),
                  ("default", .ofFields [])
                ]),
            ("patternProperties",
              .ofFields
                [
                  ("type", .ofText "object"), ("additionalProperties", reference "#"),
                  ("propertyNames", .ofFields [("format", .ofText "regex")]),
                  ("default", .ofFields [])
                ]),
            ("dependencies",
              .ofFields
                [
                  ("type", .ofText "object"),
                  ("additionalProperties",
                    .ofFields
                      [
                        ("anyOf", .list [reference "#", reference "#/definitions/stringArray"])
                      ])
                ]),
            ("propertyNames", reference "#"), ("const", .ofFields []), ("enum", typed "array"),
            ("type",
              .ofFields
                [
                  ("anyOf",
                    .list
                      [
                        reference "#/definitions/simpleTypes",
                        .ofFields
                          [
                            ("type", .ofText "array"),
                            ("items", reference "#/definitions/simpleTypes"),
                            ("minItems", .ofInt 1), ("uniqueItems", .ofFlag true)
                          ]
                      ])
                ]),
            ("format", typed "string"), ("allOf", reference "#/definitions/schemaArray"),
            ("anyOf", reference "#/definitions/schemaArray"),
            ("oneOf", reference "#/definitions/schemaArray"), ("not", reference "#")
          ]),
      ("default", .ofFields [])
    ]

/-- The schema of schemas of the seventh draft. -/
def draft7 : Document :=
  .ofFields
    [
      ("$schema", .ofText (addressOf "draft-07/schema#")),
      ("$id", .ofText (addressOf "draft-07/schema#")), ("title", .ofText "Core schema meta-schema"),
      ("definitions",
        .ofFields
          [
            ("schemaArray",
              .ofFields
                [
                  ("type", .ofText "array"), ("minItems", .ofInt 1), ("items", reference "#")
                ]),
            ("nonNegativeInteger", .ofFields [("type", .ofText "integer"), ("minimum", .ofInt 0)]),
            ("nonNegativeIntegerDefault0",
              .ofFields
                [
                  ("allOf",
                    .list
                      [
                        reference "#/definitions/nonNegativeInteger",
                        .ofFields [("default", .ofInt 0)]
                      ])
                ]),
            ("simpleTypes",
              .ofFields
                [
                  ("enum",
                    texts ["array", "boolean", "integer", "null", "number", "object", "string"])
                ]),
            ("stringArray",
              .ofFields
                [
                  ("type", .ofText "array"), ("items", typed "string"),
                  ("uniqueItems", .ofFlag true), ("default", .list [])
                ])
          ]),
      ("type", texts ["object", "boolean"]),
      ("properties",
        .ofFields
          [
            ("$id", formatted "uri-reference"), ("$schema", formatted "uri"),
            ("$ref", formatted "uri-reference"), ("$comment", typed "string"),
            ("title", typed "string"), ("description", typed "string"), ("default", .ofFlag true),
            ("readOnly", optionalFlag), ("writeOnly", optionalFlag),
            ("examples", .ofFields [("type", .ofText "array"), ("items", .ofFlag true)]),
            ("multipleOf", .ofFields [("type", .ofText "number"), ("exclusiveMinimum", .ofInt 0)]),
            ("maximum", typed "number"), ("exclusiveMaximum", typed "number"),
            ("minimum", typed "number"), ("exclusiveMinimum", typed "number"),
            ("maxLength", reference "#/definitions/nonNegativeInteger"),
            ("minLength", reference "#/definitions/nonNegativeIntegerDefault0"),
            ("pattern", formatted "regex"), ("additionalItems", reference "#"),
            ("items",
              .ofFields
                [
                  ("anyOf", .list [reference "#", reference "#/definitions/schemaArray"]),
                  ("default", .ofFlag true)
                ]),
            ("maxItems", reference "#/definitions/nonNegativeInteger"),
            ("minItems", reference "#/definitions/nonNegativeIntegerDefault0"),
            ("uniqueItems", optionalFlag), ("contains", reference "#"),
            ("maxProperties", reference "#/definitions/nonNegativeInteger"),
            ("minProperties", reference "#/definitions/nonNegativeIntegerDefault0"),
            ("required", reference "#/definitions/stringArray"),
            ("additionalProperties", reference "#"),
            ("definitions",
              .ofFields
                [
                  ("type", .ofText "object"), ("additionalProperties", reference "#"),
                  ("default", .ofFields [])
                ]),
            ("properties",
              .ofFields
                [
                  ("type", .ofText "object"), ("additionalProperties", reference "#"),
                  ("default", .ofFields [])
                ]),
            ("patternProperties",
              .ofFields
                [
                  ("type", .ofText "object"), ("additionalProperties", reference "#"),
                  ("propertyNames", .ofFields [("format", .ofText "regex")]),
                  ("default", .ofFields [])
                ]),
            ("dependencies",
              .ofFields
                [
                  ("type", .ofText "object"),
                  ("additionalProperties",
                    .ofFields
                      [
                        ("anyOf", .list [reference "#", reference "#/definitions/stringArray"])
                      ])
                ]),
            ("propertyNames", reference "#"), ("const", .ofFlag true),
            ("enum", .ofFields [("type", .ofText "array"), ("items", .ofFlag true)]),
            ("type",
              .ofFields
                [
                  ("anyOf",
                    .list
                      [
                        reference "#/definitions/simpleTypes",
                        .ofFields
                          [
                            ("type", .ofText "array"),
                            ("items", reference "#/definitions/simpleTypes"),
                            ("minItems", .ofInt 1), ("uniqueItems", .ofFlag true)
                          ]
                      ])
                ]),
            ("format", typed "string"), ("contentMediaType", typed "string"),
            ("contentEncoding", typed "string"), ("if", reference "#"), ("then", reference "#"),
            ("else", reference "#"), ("allOf", reference "#/definitions/schemaArray"),
            ("anyOf", reference "#/definitions/schemaArray"),
            ("oneOf", reference "#/definitions/schemaArray"), ("not", reference "#")
          ]),
      ("default", .ofFlag true)
    ]

end Codebook.Metaschema
