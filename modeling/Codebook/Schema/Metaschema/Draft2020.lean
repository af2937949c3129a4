import Codebook.Schema.Metaschema.Basic

/-!
# The draft of December 2020

The schema that describes schemas of this draft is put together from vocabularies, each of which describes
some keywords. Where a vocabulary asks for a schema, the whole is meant by way of a shared anchor.
-/

namespace Codebook.Metaschema

/-- The schema of schemas of 2020, which puts the vocabularies together. -/
def whole2020 : Document :=
  .ofFields
    [
      ("$schema", .ofText (address2020 "schema")), ("$id", .ofText (address2020 "schema")),
      ("$vocabulary",
        .ofFields
          [
            (address2020 "vocab/core", .ofFlag true),
            (address2020 "vocab/applicator", .ofFlag true),
            (address2020 "vocab/unevaluated", .ofFlag true),
            (address2020 "vocab/validation", .ofFlag true),
            (address2020 "vocab/meta-data", .ofFlag true),
            (address2020 "vocab/format-annotation", .ofFlag true),
            (address2020 "vocab/content", .ofFlag true)
          ]),
      ("$dynamicAnchor", .ofText "meta"),
      ("title", .ofText "Core and Validation specifications meta-schema"),
      ("allOf",
        .list
          [
            reference "meta/core", reference "meta/applicator", reference "meta/unevaluated",
            reference "meta/validation", reference "meta/meta-data",
            reference "meta/format-annotation", reference "meta/content"
          ]),
      ("type", texts ["object", "boolean"]),
      ("$comment",
        .ofText <|
          "This meta-schema also defines keywords that have appeared in previous "
            ++ "drafts in order to prevent incompatible extensions as they remain in common "
            ++ "use."),
      ("properties",
        .ofFields
          [
            ("definitions",
              .ofFields
                [
                  ("$comment", .ofText "\"definitions\" has been replaced by \"$defs\"."),
                  ("type", .ofText "object"), ("additionalProperties", self2020),
                  ("deprecated", .ofFlag true), ("default", .ofFields [])
                ]),
            ("dependencies",
              .ofFields
                [
                  ("$comment",
                    .ofText <|
                      "\"dependencies\" has been split and replaced by "
                        ++ "\"dependentSchemas\" and \"dependentRequired\" in order to "
                        ++ "serve their differing semantics."),
                  ("type", .ofText "object"),
                  ("additionalProperties",
                    .ofFields
                      [
                        ("anyOf", .list [self2020, reference "meta/validation#/$defs/stringArray"])
                      ]),
                  ("deprecated", .ofFlag true), ("default", .ofFields [])
                ]),
            ("$recursiveAnchor",
              .ofFields
                [
                  ("$comment",
                    .ofText "\"$recursiveAnchor\" has been replaced by \"$dynamicAnchor\"."),
                  ("$ref", .ofText "meta/core#/$defs/anchorString"), ("deprecated", .ofFlag true)
                ]),
            ("$recursiveRef",
              .ofFields
                [
                  ("$comment", .ofText "\"$recursiveRef\" has been replaced by \"$dynamicRef\"."),
                  ("$ref", .ofText "meta/core#/$defs/uriReferenceString"),
                  ("deprecated", .ofFlag true)
                ])
          ])
    ]

/-- The keywords that name and refer to schemas. -/
def core2020 : Document :=
  .ofFields
    [
      ("$schema", .ofText (address2020 "schema")), ("$id", .ofText (address2020 "meta/core")),
      ("$vocabulary", .ofFields [(address2020 "vocab/core", .ofFlag true)]),
      ("$dynamicAnchor", .ofText "meta"), ("title", .ofText "Core vocabulary meta-schema"),
      ("type", texts ["object", "boolean"]),
      ("properties",
        .ofFields
          [
            ("$id",
              .ofFields
                [
                  ("$ref", .ofText "#/$defs/uriReferenceString"),
                  ("$comment", .ofText "Non-empty fragments not allowed."),
                  ("pattern", .ofText "^[^#]*#?$")
                ]),
            ("$schema", reference "#/$defs/uriString"),
            ("$ref", reference "#/$defs/uriReferenceString"),
            ("$anchor", reference "#/$defs/anchorString"),
            ("$dynamicRef", reference "#/$defs/uriReferenceString"),
            ("$dynamicAnchor", reference "#/$defs/anchorString"),
            ("$vocabulary",
              .ofFields
                [
                  ("type", .ofText "object"), ("propertyNames", reference "#/$defs/uriString"),
                  ("additionalProperties", typed "boolean")
                ]),
            ("$comment", typed "string"),
            ("$defs", .ofFields [("type", .ofText "object"), ("additionalProperties", self2020)])
          ]),
      ("$defs",
        .ofFields
          [
            ("anchorString",
              .ofFields
                [
                  ("type", .ofText "string"), ("pattern", .ofText "^[A-Za-z_][-A-Za-z0-9._]*$")
                ]),
            ("uriString", formatted "uri"), ("uriReferenceString", formatted "uri-reference")
          ])
    ]

/-- The keywords that apply schemas. -/
def applicator2020 : Document :=
  .ofFields
    [
      ("$schema", .ofText (address2020 "schema")), ("$id", .ofText (address2020 "meta/applicator")),
      ("$vocabulary", .ofFields [(address2020 "vocab/applicator", .ofFlag true)]),
      ("$dynamicAnchor", .ofText "meta"), ("title", .ofText "Applicator vocabulary meta-schema"),
      ("type", texts ["object", "boolean"]),
      ("properties",
        .ofFields
          [
            ("prefixItems", reference "#/$defs/schemaArray"), ("items", self2020),
            ("contains", self2020), ("additionalProperties", self2020),
            ("properties",
              .ofFields
                [
                  ("type", .ofText "object"), ("additionalProperties", self2020),
                  ("default", .ofFields [])
                ]),
            ("patternProperties",
              .ofFields
                [
                  ("type", .ofText "object"), ("additionalProperties", self2020),
                  ("propertyNames", .ofFields [("format", .ofText "regex")]),
                  ("default", .ofFields [])
                ]),
            ("dependentSchemas",
              .ofFields
                [
                  ("type", .ofText "object"), ("additionalProperties", self2020),
                  ("default", .ofFields [])
                ]),
            ("propertyNames", self2020), ("if", self2020), ("then", self2020), ("else", self2020),
            ("allOf", reference "#/$defs/schemaArray"), ("anyOf", reference "#/$defs/schemaArray"),
            ("oneOf", reference "#/$defs/schemaArray"), ("not", self2020)
          ]),
      ("$defs",
        .ofFields
          [
            ("schemaArray",
              .ofFields [("type", .ofText "array"), ("minItems", .ofInt 1), ("items", self2020)])
          ])
    ]

/-- The keywords about what no other keyword is about. -/
def unevaluated2020 : Document :=
  .ofFields
    [
      ("$schema", .ofText (address2020 "schema")),
      ("$id", .ofText (address2020 "meta/unevaluated")),
      ("$vocabulary", .ofFields [(address2020 "vocab/unevaluated", .ofFlag true)]),
      ("$dynamicAnchor", .ofText "meta"),
      ("title", .ofText "Unevaluated applicator vocabulary meta-schema"),
      ("type", texts ["object", "boolean"]),
      ("properties",
        .ofFields [("unevaluatedItems", self2020), ("unevaluatedProperties", self2020)])
    ]

/-- The keywords that limit values. -/
def validation2020 : Document :=
  .ofFields
    [
      ("$schema", .ofText (address2020 "schema")), ("$id", .ofText (address2020 "meta/validation")),
      ("$vocabulary", .ofFields [(address2020 "vocab/validation", .ofFlag true)]),
      ("$dynamicAnchor", .ofText "meta"), ("title", .ofText "Validation vocabulary meta-schema"),
      ("type", texts ["object", "boolean"]),
      ("properties",
        .ofFields
          [
            ("type",
              .ofFields
                [
                  ("anyOf",
                    .list
                      [
                        reference "#/$defs/simpleTypes",
                        .ofFields
                          [
                            ("type", .ofText "array"), ("items", reference "#/$defs/simpleTypes"),
                            ("minItems", .ofInt 1), ("uniqueItems", .ofFlag true)
                          ]
                      ])
                ]),
            ("const", .ofFlag true),
            ("enum", .ofFields [("type", .ofText "array"), ("items", .ofFlag true)]),
            ("multipleOf", .ofFields [("type", .ofText "number"), ("exclusiveMinimum", .ofInt 0)]),
            ("maximum", typed "number"), ("exclusiveMaximum", typed "number"),
            ("minimum", typed "number"), ("exclusiveMinimum", typed "number"),
            ("maxLength", reference "#/$defs/nonNegativeInteger"),
            ("minLength", reference "#/$defs/nonNegativeIntegerDefault0"),
            ("pattern", formatted "regex"), ("maxItems", reference "#/$defs/nonNegativeInteger"),
            ("minItems", reference "#/$defs/nonNegativeIntegerDefault0"),
            ("uniqueItems", optionalFlag), ("maxContains", reference "#/$defs/nonNegativeInteger"),
            ("minContains",
              .ofFields [("$ref", .ofText "#/$defs/nonNegativeInteger"), ("default", .ofInt 1)]),
            ("maxProperties", reference "#/$defs/nonNegativeInteger"),
            ("minProperties", reference "#/$defs/nonNegativeIntegerDefault0"),
            ("required", reference "#/$defs/stringArray"),
            ("dependentRequired",
              .ofFields
                [
                  ("type", .ofText "object"),
                  ("additionalProperties", reference "#/$defs/stringArray")
                ])
          ]),
      ("$defs",
        .ofFields
          [
            ("nonNegativeInteger", .ofFields [("type", .ofText "integer"), ("minimum", .ofInt 0)]),
            ("nonNegativeIntegerDefault0",
              .ofFields [("$ref", .ofText "#/$defs/nonNegativeInteger"), ("default", .ofInt 0)]),
            ("simpleTypes",
              .ofFields
                [
                  ("enum",
                    texts ["array", "boolean", "integer", "null", "number", "object", "string"])
                ]),
            ("stringArray",
              .ofFields
                [
                  ("type", .ofText "array"), ("items", typed "string"),
                  ("uniqueItems", .ofFlag true), ("default", .list [])
                ])
          ])
    ]

/-- The keywords that describe values. -/
def metaData2020 : Document :=
  .ofFields
    [
      ("$schema", .ofText (address2020 "schema")), ("$id", .ofText (address2020 "meta/meta-data")),
      ("$vocabulary", .ofFields [(address2020 "vocab/meta-data", .ofFlag true)]),
      ("$dynamicAnchor", .ofText "meta"), ("title", .ofText "Meta-data vocabulary meta-schema"),
      ("type", texts ["object", "boolean"]),
      ("properties",
        .ofFields
          [
            ("title", typed "string"), ("description", typed "string"), ("default", .ofFlag true),
            ("deprecated", optionalFlag), ("readOnly", optionalFlag), ("writeOnly", optionalFlag),
            ("examples", .ofFields [("type", .ofText "array"), ("items", .ofFlag true)])
          ])
    ]

/-- The keyword about the formats of texts. -/
def format2020 : Document :=
  .ofFields
    [
      ("$schema", .ofText (address2020 "schema")),
      ("$id", .ofText (address2020 "meta/format-annotation")),
      ("$vocabulary", .ofFields [(address2020 "vocab/format-annotation", .ofFlag true)]),
      ("$dynamicAnchor", .ofText "meta"),
      ("title", .ofText "Format vocabulary meta-schema for annotation results"),
      ("type", texts ["object", "boolean"]), ("properties", .ofFields [("format", typed "string")])
    ]

/-- The keywords about the content of texts. -/
def content2020 : Document :=
  .ofFields
    [
      ("$schema", .ofText (address2020 "schema")), ("$id", .ofText (address2020 "meta/content")),
      ("$vocabulary", .ofFields [(address2020 "vocab/content", .ofFlag true)]),
      ("$dynamicAnchor", .ofText "meta"), ("title", .ofText "Content vocabulary meta-schema"),
      ("type", texts ["object", "boolean"]),
      ("properties",
        .ofFields
          [
            ("contentEncoding", typed "string"), ("contentMediaType", typed "string"),
            ("contentSchema", self2020)
          ])
    ]

end Codebook.Metaschema
