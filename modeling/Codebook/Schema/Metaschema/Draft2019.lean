import Codebook.Schema.Metaschema.Basic

/-!
# The draft of September 2019

The schema that describes schemas of this draft is put together from vocabularies, each of which describes
some keywords.
-/

namespace Codebook.Metaschema

/-- The schema of schemas of 2019, which puts the vocabularies together. -/
def whole2019 : Document :=
  .ofFields
    [
      ("$schema", .ofText (address2019 "schema")), ("$id", .ofText (address2019 "schema")),
      ("$vocabulary",
        .ofFields
          [
            (address2019 "vocab/core", .ofFlag true),
            (address2019 "vocab/applicator", .ofFlag true),
            (address2019 "vocab/validation", .ofFlag true),
            (address2019 "vocab/meta-data", .ofFlag true),
            (address2019 "vocab/format", .ofFlag false), (address2019 "vocab/content", .ofFlag true)
          ]),
      ("$recursiveAnchor", .ofFlag true),
      ("title", .ofText "Core and Validation specifications meta-schema"),
      ("allOf",
        .list
          [
            reference "meta/core", reference "meta/applicator", reference "meta/validation",
            reference "meta/meta-data", reference "meta/format", reference "meta/content"
          ]),
      ("type", texts ["object", "boolean"]),
      ("properties",
        .ofFields
          [
            ("definitions",
              .ofFields
                [
                  ("$comment",
                    .ofText <|
                      "While no longer an official keyword as it is replaced by $defs, "
                        ++ "this keyword is retained in the meta-schema to prevent "
                        ++ "incompatible extensions as it remains in common use."),
                  ("type", .ofText "object"), ("additionalProperties", self2019),
                  ("default", .ofFields [])
                ]),
            ("dependencies",
              .ofFields
                [
                  ("$comment",
                    .ofText <|
                      "\"dependencies\" is no longer a keyword, but schema authors "
                        ++ "should avoid redefining it to facilitate a smooth transition to "
                        ++ "\"dependentSchemas\" and \"dependentRequired\""),
                  ("type", .ofText "object"),
                  ("additionalProperties",
                    .ofFields
                      [
                        ("anyOf", .list [self2019, reference "meta/validation#/$defs/stringArray"])
                      ])
                ])
          ])
    ]

/-- The keywords that name and refer to schemas. -/
def core2019 : Document :=
  .ofFields
    [
      ("$schema", .ofText (address2019 "schema")), ("$id", .ofText (address2019 "meta/core")),
      ("$vocabulary", .ofFields [(address2019 "vocab/core", .ofFlag true)]),
      ("$recursiveAnchor", .ofFlag true), ("title", .ofText "Core vocabulary meta-schema"),
      ("type", texts ["object", "boolean"]),
      ("properties",
        .ofFields
          [
            ("$id",
              .ofFields
                [
                  ("type", .ofText "string"), ("format", .ofText "uri-reference"),
                  ("$comment", .ofText "Non-empty fragments not allowed."),
                  ("pattern", .ofText "^[^#]*#?$")
                ]),
            ("$schema", formatted "uri"),
            ("$anchor",
              .ofFields
                [
                  ("type", .ofText "string"), ("pattern", .ofText "^[A-Za-z][-A-Za-z0-9.:_]*$")
                ]),
            ("$ref", formatted "uri-reference"), ("$recursiveRef", formatted "uri-reference"),
            ("$recursiveAnchor", optionalFlag),
            ("$vocabulary",
              .ofFields
                [
                  ("type", .ofText "object"), ("propertyNames", formatted "uri"),
                  ("additionalProperties", typed "boolean")
                ]),
            ("$comment", typed "string"),
            ("$defs",
              .ofFields
                [
                  ("type", .ofText "object"), ("additionalProperties", self2019),
                  ("default", .ofFields [])
                ])
          ])
    ]

/-- The keywords that apply schemas. -/
def applicator2019 : Document :=
  .ofFields
    [
      ("$schema", .ofText (address2019 "schema")), ("$id", .ofText (address2019 "meta/applicator")),
      ("$vocabulary", .ofFields [(address2019 "vocab/applicator", .ofFlag true)]),
      ("$recursiveAnchor", .ofFlag true), ("title", .ofText "Applicator vocabulary meta-schema"),
      ("type", texts ["object", "boolean"]),
      ("properties",
        .ofFields
          [
            ("additionalItems", self2019), ("unevaluatedItems", self2019),
            ("items", .ofFields [("anyOf", .list [self2019, reference "#/$defs/schemaArray"])]),
            ("contains", self2019), ("additionalProperties", self2019),
            ("unevaluatedProperties", self2019),
            ("properties",
              .ofFields
                [
                  ("type", .ofText "object"), ("additionalProperties", self2019),
                  ("default", .ofFields [])
                ]),
            ("patternProperties",
              .ofFields
                [
                  ("type", .ofText "object"), ("additionalProperties", self2019),
                  ("propertyNames", .ofFields [("format", .ofText "regex")]),
                  ("default", .ofFields [])
                ]),
            ("dependentSchemas",
              .ofFields [("type", .ofText "object"), ("additionalProperties", self2019)]),
            ("propertyNames", self2019), ("if", self2019), ("then", self2019), ("else", self2019),
            ("allOf", reference "#/$defs/schemaArray"), ("anyOf", reference "#/$defs/schemaArray"),
            ("oneOf", reference "#/$defs/schemaArray"), ("not", self2019)
          ]),
      ("$defs",
        .ofFields
          [
            ("schemaArray",
              .ofFields [("type", .ofText "array"), ("minItems", .ofInt 1), ("items", self2019)])
          ])
    ]

/-- The keywords that limit values. -/
def validation2019 : Document :=
  .ofFields
    [
      ("$schema", .ofText (address2019 "schema")), ("$id", .ofText (address2019 "meta/validation")),
      ("$vocabulary", .ofFields [(address2019 "vocab/validation", .ofFlag true)]),
      ("$recursiveAnchor", .ofFlag true), ("title", .ofText "Validation vocabulary meta-schema"),
      ("type", texts ["object", "boolean"]),
      ("properties",
        .ofFields
          [
            ("multipleOf", .ofFields [("type", .ofText "number"), ("exclusiveMinimum", .ofInt 0)]),
            ("maximum", typed "number"), ("exclusiveMaximum", typed "number"),
            ("minimum", typed "number"), ("exclusiveMinimum", typed "number"),
            ("maxLength", reference "#/$defs/nonNegativeInteger"),
            ("minLength", reference "#/$defs/nonNegativeIntegerDefault0"),
            ("pattern", formatted "regex"), ("maxItems", reference "#/$defs/nonNegativeInteger"),
            ("minItems", reference "#/$defs/nonNegativeIntegerDefault0"),
            ("uniqueItems", optionalFlag), ("maxContains", reference "#/$defs/nonNegativeInteger"),
            ("minContains",
              .ofFields [("$ref", .ofText "#/$defs/nonNegativeInteger"), ("default", .ofInt 1)]),
            ("maxProperties", reference "#/$defs/nonNegativeInteger"),
            ("minProperties", reference "#/$defs/nonNegativeIntegerDefault0"),
            ("required", reference "#/$defs/stringArray"),
            ("dependentRequired",
              .ofFields
                [
                  ("type", .ofText "object"),
                  ("additionalProperties", reference "#/$defs/stringArray")
                ]),
            ("const", .ofFlag true),
            ("enum", .ofFields [("type", .ofText "array"), ("items", .ofFlag true)]),
            ("type",
              .ofFields
                [
                  ("anyOf",
                    .list
                      [
                        reference "#/$defs/simpleTypes",
                        .ofFields
                          [
                            ("type", .ofText "array"), ("items", reference "#/$defs/simpleTypes"),
                            ("minItems", .ofInt 1), ("uniqueItems", .ofFlag true)
                          ]
                      ])
                ])
          ]),
      ("$defs",
        .ofFields
          [
            ("nonNegativeInteger", .ofFields [("type", .ofText "integer"), ("minimum", .ofInt 0)]),
            ("nonNegativeIntegerDefault0",
              .ofFields [("$ref", .ofText "#/$defs/nonNegativeInteger"), ("default", .ofInt 0)]),
            ("simpleTypes",
              .ofFields
                [
                  ("enum",
                    texts ["array", "boolean", "integer", "null", "number", "object", "string"])
                ]),
            ("stringArray",
              .ofFields
                [
                  ("type", .ofText "array"), ("items", typed "string"),
                  ("uniqueItems", .ofFlag true), ("default", .list [])
                ])
          ])
    ]

/-- The keywords that describe values. -/
def metaData2019 : Document :=
  .ofFields
    [
      ("$schema", .ofText (address2019 "schema")), ("$id", .ofText (address2019 "meta/meta-data")),
      ("$vocabulary", .ofFields [(address2019 "vocab/meta-data", .ofFlag true)]),
      ("$recursiveAnchor", .ofFlag true), ("title", .ofText "Meta-data vocabulary meta-schema"),
      ("type", texts ["object", "boolean"]),
      ("properties",
        .ofFields
          [
            ("title", typed "string"), ("description", typed "string"), ("default", .ofFlag true),
            ("deprecated", optionalFlag), ("readOnly", optionalFlag), ("writeOnly", optionalFlag),
            ("examples", .ofFields [("type", .ofText "array"), ("items", .ofFlag true)])
          ])
    ]

/-- The keyword about the formats of texts. -/
def format2019 : Document :=
  .ofFields
    [
      ("$schema", .ofText (address2019 "schema")), ("$id", .ofText (address2019 "meta/format")),
      ("$vocabulary", .ofFields [(address2019 "vocab/format", .ofFlag true)]),
      ("$recursiveAnchor", .ofFlag true), ("title", .ofText "Format vocabulary meta-schema"),
      ("type", texts ["object", "boolean"]), ("properties", .ofFields [("format", typed "string")])
    ]

/-- The keywords about the content of texts. -/
def content2019 : Document :=
  .ofFields
    [
      ("$schema", .ofText (address2019 "schema")), ("$id", .ofText (address2019 "meta/content")),
      ("$vocabulary", .ofFields [(address2019 "vocab/content", .ofFlag true)]),
      ("$recursiveAnchor", .ofFlag true), ("title", .ofText "Content vocabulary meta-schema"),
      ("type", texts ["object", "boolean"]),
      ("properties",
        .ofFields
          [
            ("contentMediaType", typed "string"), ("contentEncoding", typed "string"),
            ("contentSchema", self2019)
          ])
    ]

end Codebook.Metaschema
