import CodeAtlas.Language.Script

namespace CodeAtlas.Language.TypeScript

open Rule Script

/-- Characters that let a line go on with the statement before it; brackets only do so where an
operator can come, a brace where a body can. -/
def continues (a : Allowed) (c : Char) : Bool :=
  "\x60,.;*%><=?^|&/:".toList.contains c || ((c = '(' || c = '[') && a.operator)
    || (c = '\x7b' && a.signatureEnd)

/-- Before a closing brace a semicolon may stand, unless a type follows what the braces hold. -/
def atBrace (a : Allowed) (source : Source) (i : Nat) : Attempt :=
  let j := skipBlanks source (i + 1)
  if source.at? j = some ':' then ⟨a.operator, j, false⟩ else ⟨true, j, false⟩

def semicolonFrom (a : Allowed) (source : Source) : Nat → Nat → Attempt
  | 0, i => ⟨false, i, false⟩
  | fuel + 1, i =>
    if isEnd source i then ⟨true, i, false⟩
    else
      let next := source.at? i
      if next = some '\x7d' then atBrace a source i
      else if !next.any isBlank then ⟨false, i, false⟩
      else if next = some '\n' then
        afterLineEnd (beginsStatement source (continues a)) source (i + 1) false
      else semicolonFrom a source fuel (i + 1)

def semicolon (a : Allowed) (source : Source) (i : Nat) : Attempt :=
  semicolonFrom a source (source.size - i + 2) i

/-- A question mark behind an optional name is followed by its type, or by what follows the name. -/
def asks (source : Source) (i : Nat) : Bool :=
  let j := skipBlanks source i
  let next := source.at? j
  next ≠ some ':' && next ≠ some ')' && next ≠ some ',' && beginsValue source j

def typeMark : Rule :=
  field "type" (opt (ref "type_annotation"))

def typeParameters : Rule :=
  field "type_parameters" (opt (ref "type_parameters"))

def typeArguments : Rule :=
  field "type_arguments" (opt (ref "type_arguments"))

def decorators : Rule :=
  star (field "decorator" (ref "decorator"))

def importKind : Rule :=
  opt (oneOf ["type", "typeof"])

def members : List (String × Rule) := [
  ("public_field_definition", all [decorators,
    opt (oneOf [all ["declare", opt (ref "accessibility_modifier")],
      all [ref "accessibility_modifier", opt "declare"]]),
    oneOf [all [opt "static", opt (ref "override_modifier"), opt "readonly"],
      all [opt "abstract", opt "readonly"], all [opt "readonly", opt "abstract"], opt "accessor"],
    field "name" (ref "_property_name"), opt (oneOf ["?", "!"]), typeMark,
    opt (ref "_initializer")]),
  ("catch_clause", all ["catch", opt (all ["(",
    field "parameter" (oneOf [ref "identifier", ref "_destructuring_pattern"]),
    opt (field "type" (ref "type_annotation")), ")"]), field "body" (ref "statement_block")]),
  ("call_expression", oneOf [
    named "call" (all [field "function" (oneOf [ref "expression", ref "import"]), typeArguments,
      field "arguments" (ref "arguments")]),
    named "template_call" (all [
      field "function" (oneOf [ref "primary_expression", ref "new_expression"]),
      field "arguments" (ref "template_string")]),
    named "member" (all [field "function" (ref "primary_expression"), "?.", typeArguments,
      field "arguments" (ref "arguments")])]),
  ("new_expression", rightNamed "new" (all ["new",
    field "constructor" (ref "primary_expression"), typeArguments,
    field "arguments" (opt (ref "arguments"))])),
  ("_augmented_assignment_lhs", oneOf [ruleOf Script.rules "_augmented_assignment_lhs",
    ref "non_null_expression"]),
  ("_lhs_expression", oneOf [ruleOf Script.rules "_lhs_expression", ref "non_null_expression"]),
  ("primary_expression", oneOf [ruleOf Script.rules "primary_expression",
    ref "non_null_expression"]),
  ("_jsx_start_opening_element", all ["<", opt (all [
    oneOf [
      field "name" (oneOf [ref "_jsx_identifier", ref "jsx_namespace_name"]),
      all [field "name" (oneOf [ref "identifier",
        as (ref "nested_identifier") "member_expression"]), typeArguments]],
    star (field "attribute" (ref "_jsx_attribute"))])]),
  ("jsx_opening_element", dynamic (-1) (all [ref "_jsx_start_opening_element", ">"])),
  ("jsx_self_closing_element", dynamic (-1) (all [ref "_jsx_start_opening_element", "/>"])),
  ("export_specifier", all [importKind, ruleOf Script.rules "export_specifier"]),
  ("_import_identifier", oneOf [ref "identifier", as "type" "identifier"]),
  ("import_specifier", all [importKind, oneOf [field "name" (ref "_import_identifier"),
    all [field "name" (oneOf [ref "_module_export_name", as "type" "identifier"]), "as",
      field "alias" (ref "_import_identifier")]]]),
  ("import_clause", oneOf [ref "namespace_import", ref "named_imports",
    all [ref "_import_identifier",
      opt (all [",", oneOf [ref "namespace_import", ref "named_imports"]])]]),
  ("import_statement", all ["import", importKind, oneOf [
    all [ref "import_clause", ref "_from_clause"], ref "import_require_clause",
    field "source" (ref "string")], opt (ref "import_attribute"), ref "_semicolon"]),
  ("export_statement", oneOf [ruleOf Script.rules "export_statement",
    all ["export", "type", ref "export_clause", opt (ref "_from_clause"), ref "_semicolon"],
    all ["export", "import", ref "import_alias"],
    all ["export", "=", ref "expression", ref "_semicolon"],
    all ["export", "as", "namespace", ref "identifier", ref "_semicolon"]]),
  ("non_null_expression", leftNamed "unary" (all [ref "expression", "!"])),
  ("variable_declarator", oneOf [
    all [field "name" (oneOf [ref "identifier", ref "_destructuring_pattern"]), typeMark,
      opt (ref "_initializer")],
    named "declaration" (all [field "name" (ref "identifier"), "!",
      field "type" (ref "type_annotation")])]),
  ("method_signature", all [opt (ref "accessibility_modifier"), opt "static",
    opt (ref "override_modifier"), opt "readonly", opt "async", opt (oneOf ["get", "set", "*"]),
    field "name" (ref "_property_name"), opt "?", ref "_call_signature"]),
  ("abstract_method_signature", all [opt (ref "accessibility_modifier"), "abstract",
    opt (ref "override_modifier"), opt (oneOf ["get", "set", "*"]),
    field "name" (ref "_property_name"), opt "?", ref "_call_signature"]),
  ("parenthesized_expression", all ["(", oneOf [all [ref "expression", typeMark],
    ref "sequence_expression"], ")"]),
  ("_formal_parameter", oneOf [ref "required_parameter", ref "optional_parameter"]),
  ("function_signature", all [opt "async", "function", field "name" (ref "identifier"),
    ref "_call_signature",
    oneOf [ref "_semicolon", ref "_function_signature_automatic_semicolon"]]),
  ("decorator", all ["@", oneOf [ref "identifier",
    as (ref "decorator_member_expression") "member_expression",
    as (ref "decorator_call_expression") "call_expression",
    as (ref "decorator_parenthesized_expression") "parenthesized_expression"]]),
  ("decorator_call_expression", named "call" (all [
    field "function" (oneOf [ref "identifier",
      as (ref "decorator_member_expression") "member_expression"]),
    opt (field "type_arguments" (ref "type_arguments")), field "arguments" (ref "arguments")])),
  ("decorator_parenthesized_expression", all ["(", oneOf [ref "identifier",
    as (ref "decorator_member_expression") "member_expression",
    as (ref "decorator_call_expression") "call_expression"], ")"]),
  ("class_body", all ["\x7b", star (oneOf [
    all [decorators, ref "method_definition", opt (ref "_semicolon")],
    all [ref "method_signature",
      oneOf [ref "_function_signature_automatic_semicolon", ","]],
    ref "class_static_block",
    all [oneOf [ref "abstract_method_signature", ref "index_signature", ref "method_signature",
      ref "public_field_definition"], oneOf [ref "_semicolon", ","]],
    ";"]), "\x7d"]),
  ("method_definition", left (all [opt (ref "accessibility_modifier"), opt "static",
    opt (ref "override_modifier"), opt "readonly", opt "async", opt (oneOf ["get", "set", "*"]),
    field "name" (ref "_property_name"), opt "?", ref "_call_signature",
    field "body" (ref "statement_block")])),
  ("declaration", oneOf [ruleOf Script.rules "declaration", ref "function_signature",
    ref "abstract_class_declaration", ref "module", named "declaration" (ref "internal_module"),
    ref "type_alias_declaration", ref "enum_declaration", ref "interface_declaration",
    ref "import_alias", ref "ambient_declaration"])]

def declarations : List (String × Rule) := [
  ("as_expression", leftNamed "binary" (all [ref "expression", "as",
    oneOf ["const", ref "type"]])),
  ("satisfies_expression", leftNamed "binary" (all [ref "expression", "satisfies", ref "type"])),
  ("instantiation_expression", named "instantiation" (all [ref "expression",
    field "type_arguments" (ref "type_arguments")])),
  ("class_heritage", oneOf [all [ref "extends_clause", opt (ref "implements_clause")],
    ref "implements_clause"]),
  ("import_require_clause", all [ref "identifier", "=", "require", "(",
    field "source" (ref "string"), ")"]),
  ("extends_clause", all ["extends", commaSep1 (ref "_extends_clause_single")]),
  ("_extends_clause_single", named "extends" (all [field "value" (ref "expression"),
    typeArguments])),
  ("implements_clause", all ["implements", commaSep1 (ref "type")]),
  ("ambient_declaration", all ["declare", oneOf [ref "declaration",
    all ["global", ref "statement_block"],
    all ["module", ".", as (ref "identifier") "property_identifier", ":", ref "type",
      ref "_semicolon"]]]),
  ("class", named "literal" (all [decorators, "class",
    field "name" (opt (ref "_type_identifier")), typeParameters, opt (ref "class_heritage"),
    field "body" (ref "class_body")])),
  ("abstract_class_declaration", named "declaration" (all [decorators, "abstract", "class",
    field "name" (ref "_type_identifier"), typeParameters, opt (ref "class_heritage"),
    field "body" (ref "class_body")])),
  ("class_declaration", leftNamed "declaration" (all [decorators, "class",
    field "name" (ref "_type_identifier"), typeParameters, opt (ref "class_heritage"),
    field "body" (ref "class_body"), opt (ref "_automatic_semicolon")])),
  ("module", all ["module", ref "_module"]),
  ("internal_module", all ["namespace", ref "_module"]),
  ("_module", right (all [
    field "name" (oneOf [ref "string", ref "identifier", ref "nested_identifier"]),
    field "body" (opt (ref "statement_block"))])),
  ("import_alias", all ["import", ref "identifier", "=",
    oneOf [ref "identifier", ref "nested_identifier"], ref "_semicolon"]),
  ("nested_type_identifier", named "member" (all [
    field "module" (oneOf [ref "identifier", ref "nested_identifier"]), ".",
    field "name" (ref "_type_identifier")])),
  ("interface_declaration", named "declaration" (all ["interface",
    field "name" (ref "_type_identifier"), typeParameters, opt (ref "extends_type_clause"),
    field "body" (as (ref "object_type") "interface_body")])),
  ("extends_type_clause", all ["extends", commaSep1 (field "type" (oneOf [
    ref "_type_identifier", ref "nested_type_identifier", ref "generic_type"]))]),
  ("enum_declaration", all [opt "const", "enum", field "name" (ref "identifier"),
    field "body" (ref "enum_body")]),
  ("enum_body", all ["\x7b", opt (all [
    commaSep1 (oneOf [field "name" (ref "_property_name"), ref "enum_assignment"]), opt ","]),
    "\x7d"]),
  ("enum_assignment", all [field "name" (ref "_property_name"), ref "_initializer"]),
  ("type_alias_declaration", all ["type", field "name" (ref "_type_identifier"), typeParameters,
    "=", field "value" (ref "type"), ref "_semicolon"]),
  ("accessibility_modifier", oneOf ["public", "private", "protected"]),
  ("override_modifier", "override"),
  ("required_parameter", all [ref "_parameter_name", typeMark, opt (ref "_initializer")]),
  ("optional_parameter", all [ref "_parameter_name", "?", typeMark, opt (ref "_initializer")]),
  ("_parameter_name", all [decorators, opt (ref "accessibility_modifier"),
    opt (ref "override_modifier"), opt "readonly",
    field "pattern" (oneOf [ref "pattern", ref "this"])]),
  ("omitting_type_annotation", all ["-?:", ref "type"]),
  ("adding_type_annotation", all ["+?:", ref "type"]),
  ("opting_type_annotation", all ["?:", ref "type"]),
  ("type_annotation", all [":", oneOf [ref "type",
    as (ref "_type_query_member_expression_in_type_annotation") "member_expression",
    as (ref "_type_query_call_expression_in_type_annotation") "call_expression"]]),
  ("_type_query_member_expression_in_type_annotation", all [
    field "object" (oneOf [ref "import",
      as (ref "_type_query_member_expression_in_type_annotation") "member_expression",
      as (ref "_type_query_call_expression_in_type_annotation") "call_expression"]), ".",
    field "property" (oneOf [ref "private_property_identifier",
      as (ref "identifier") "property_identifier"])]),
  ("_type_query_call_expression_in_type_annotation", all [
    field "function" (oneOf [ref "import",
      as (ref "_type_query_member_expression_in_type_annotation") "member_expression"]),
    field "arguments" (ref "arguments")]),
  ("asserts", all ["asserts", oneOf [ref "type_predicate", ref "identifier", ref "this"]]),
  ("asserts_annotation", all [":", ref "asserts"])]

def level (n : Int) (r : Rule) : Rule :=
  prec (.level n) none r

def queried : Rule :=
  oneOf [ref "identifier", ref "this",
    as (ref "_type_query_subscript_expression") "subscript_expression",
    as (ref "_type_query_member_expression") "member_expression",
    as (ref "_type_query_call_expression") "call_expression"]

def applied : Rule :=
  oneOf [ref "import", ref "identifier",
    as (ref "_type_query_member_expression") "member_expression",
    as (ref "_type_query_subscript_expression") "subscript_expression"]

def types : List (String × Rule) := [
  ("type", oneOf [ref "primary_type", ref "function_type", ref "readonly_type",
    ref "constructor_type", ref "infer_type",
    level (-1) (as (ref "_type_query_member_expression_in_type_annotation") "member_expression"),
    level (-1) (as (ref "_type_query_call_expression_in_type_annotation") "call_expression")]),
  ("tuple_parameter", all [field "name" (oneOf [ref "identifier", ref "rest_pattern"]),
    field "type" (ref "type_annotation")]),
  ("optional_tuple_parameter", all [field "name" (ref "identifier"), "?",
    field "type" (ref "type_annotation")]),
  ("optional_type", all [ref "type", "?"]),
  ("rest_type", all ["...", ref "type"]),
  ("_tuple_type_member", oneOf [as (ref "tuple_parameter") "required_parameter",
    as (ref "optional_tuple_parameter") "optional_parameter", ref "optional_type",
    ref "rest_type", ref "type"]),
  ("constructor_type", left (all [opt "abstract", "new", typeParameters,
    field "parameters" (ref "formal_parameters"), "=>", field "type" (ref "type")])),
  ("primary_type", oneOf [ref "parenthesized_type", ref "predefined_type",
    ref "_type_identifier", ref "nested_type_identifier", ref "generic_type", ref "object_type",
    ref "array_type", ref "tuple_type", ref "flow_maybe_type", ref "type_query",
    ref "index_type_query", as (ref "this") "this_type", ref "existential_type",
    ref "literal_type", ref "lookup_type", ref "conditional_type", ref "template_literal_type",
    ref "intersection_type", ref "union_type", "const"]),
  ("template_type", all ["$\x7b", oneOf [ref "primary_type", ref "infer_type"], "\x7d"]),
  ("template_literal_type", all ["\x60", star (oneOf [as (ref "_template_chars") "string_fragment",
    ref "template_type"]), "\x60"]),
  ("infer_type", right (all ["infer", ref "_type_identifier",
    opt (all ["extends", ref "type"])])),
  ("conditional_type", right (all [field "left" (ref "type"), "extends",
    field "right" (ref "type"), "?", field "consequence" (ref "type"), ":",
    field "alternative" (ref "type")])),
  ("generic_type", named "call" (all [
    field "name" (oneOf [ref "_type_identifier", ref "nested_type_identifier"]),
    field "type_arguments" (ref "type_arguments")])),
  ("type_predicate", all [field "name" (oneOf [ref "identifier", ref "this",
    as (ref "predefined_type") "identifier"]), "is", field "type" (ref "type")]),
  ("type_predicate_annotation", all [":", ref "type_predicate"]),
  ("_type_query_member_expression", all [field "object" queried, oneOf [".", "?."],
    field "property" (oneOf [ref "private_property_identifier",
      as (ref "identifier") "property_identifier"])]),
  ("_type_query_subscript_expression", all [field "object" queried, opt "?.", "[",
    field "index" (oneOf [ref "predefined_type", ref "string", ref "number"]), "]"]),
  ("_type_query_call_expression", all [field "function" applied,
    field "arguments" (ref "arguments")]),
  ("_type_query_instantiation_expression", all [field "function" applied,
    field "type_arguments" (ref "type_arguments")]),
  ("type_query", right (all ["typeof", oneOf [
    as (ref "_type_query_subscript_expression") "subscript_expression",
    as (ref "_type_query_member_expression") "member_expression",
    as (ref "_type_query_call_expression") "call_expression",
    as (ref "_type_query_instantiation_expression") "instantiation_expression",
    ref "identifier", ref "this"]])),
  ("index_type_query", all ["keyof", ref "primary_type"]),
  ("lookup_type", all [ref "primary_type", "[", ref "type", "]"]),
  ("mapped_type_clause", all [field "name" (ref "_type_identifier"), "in",
    field "type" (ref "type"), opt (all ["as", field "alias" (ref "type")])]),
  ("literal_type", oneOf [as (ref "_number") "unary_expression", ref "number", ref "string",
    ref "true", ref "false", ref "null", ref "undefined"]),
  ("_number", prec (.level 1) (some .left) (all [field "operator" (oneOf ["-", "+"]),
    field "argument" (ref "number")])),
  ("existential_type", "*"),
  ("flow_maybe_type", right (all ["?", ref "primary_type"])),
  ("parenthesized_type", all ["(", ref "type", ")"]),
  ("predefined_type", oneOf ["any", "number", "boolean", "string", "symbol",
    asText (all ["unique", "symbol"]) "unique symbol", "void", "unknown", "never", "object"]),
  ("type_arguments", all ["<", commaSep1 (ref "type"), opt ",", ">"]),
  ("object_type", all [oneOf ["\x7b", "\x7b|"], opt (all [opt (oneOf [",", ";"]),
    sepBy1 (oneOf [",", ref "_semicolon"]) (oneOf [ref "export_statement",
      ref "property_signature", ref "call_signature", ref "construct_signature",
      ref "index_signature", ref "method_signature"]),
    opt (oneOf [",", ref "_semicolon"])]), oneOf ["\x7d", "|\x7d"]]),
  ("call_signature", ref "_call_signature"),
  ("property_signature", all [opt (ref "accessibility_modifier"), opt "static",
    opt (ref "override_modifier"), opt "readonly", field "name" (ref "_property_name"), opt "?",
    typeMark]),
  ("_call_signature", all [typeParameters, field "parameters" (ref "formal_parameters"),
    field "return_type" (opt (oneOf [ref "type_annotation", ref "asserts_annotation",
      ref "type_predicate_annotation"]))]),
  ("type_parameters", all ["<", commaSep1 (ref "type_parameter"), opt ",", ">"]),
  ("type_parameter", all [opt "const", field "name" (ref "_type_identifier"),
    field "constraint" (opt (ref "constraint")), field "value" (opt (ref "default_type"))]),
  ("default_type", all ["=", ref "type"]),
  ("constraint", all [oneOf ["extends", ":"], ref "type"]),
  ("construct_signature", all [opt "abstract", "new", typeParameters,
    field "parameters" (ref "formal_parameters"), typeMark]),
  ("index_signature", all [opt (all [field "sign" (opt (oneOf ["-", "+"])), "readonly"]), "[",
    oneOf [all [field "name" (oneOf [ref "identifier",
        as (ref "_reserved_identifier") "identifier"]), ":", field "index_type" (ref "type")],
      ref "mapped_type_clause"], "]",
    field "type" (oneOf [ref "type_annotation", ref "omitting_type_annotation",
      ref "adding_type_annotation", ref "opting_type_annotation"])]),
  ("array_type", all [ref "primary_type", "[", "]"]),
  ("tuple_type", all ["[", commaSep (ref "_tuple_type_member"), opt ",", "]"]),
  ("readonly_type", all ["readonly", ref "type"]),
  ("union_type", left (all [opt (ref "type"), "|", ref "type"])),
  ("intersection_type", left (all [opt (ref "type"), "&", ref "type"])),
  ("function_type", left (all [typeParameters, field "parameters" (ref "formal_parameters"), "=>",
    field "return_type" (oneOf [ref "type", ref "asserts", ref "type_predicate"])])),
  ("_type_identifier", as (ref "identifier") "type_identifier"),
  ("_reserved_identifier", oneOf ["declare", "namespace", "type", "public", "private",
    "protected", "override", "readonly", "module", "any", "number", "boolean", "string", "symbol",
    "object", "new", ruleOf Script.rules "_reserved_identifier"])]

/-- Everything an expression can be but markup. -/
def plainExpressions : Rule :=
  oneOf [ref "primary_expression", ref "assignment_expression",
    ref "augmented_assignment_expression", ref "await_expression", ref "unary_expression",
    ref "binary_expression", ref "ternary_expression", ref "update_expression",
    ref "new_expression", ref "yield_expression"]

def typedExpressions : List Rule := [ref "as_expression", ref "satisfies_expression",
  ref "instantiation_expression", ref "internal_module"]

def plainDialect : List (String × Rule) := [
  ("expression", oneOf (typedExpressions ++ [ref "type_assertion", plainExpressions])),
  ("type_assertion", leftNamed "unary" (all [ref "type_arguments", ref "expression"]))]

def markupDialect : List (String × Rule) := [
  ("expression", oneOf (typedExpressions ++ [ruleOf Script.rules "expression"]))]

def rankLevels (names : List String) : List Rank :=
  names.map .level

def rankRules (names : List String) : List Rank :=
  names.map .rule

def ranks : List (List Rank) := Script.ranks ++ [
  rankLevels ["call", "instantiation", "unary", "binary"]
    ++ rankRules ["await_expression", "arrow_function"],
  rankLevels ["extends", "instantiation"],
  rankRules ["intersection_type", "union_type", "conditional_type", "function_type"]
    ++ rankLevels ["binary"] ++ rankRules ["type_predicate", "readonly_type"],
  rankRules ["mapped_type_clause", "primary_expression"],
  rankRules ["accessibility_modifier", "primary_expression"],
  [.level "unary_void", .rule "expression"],
  rankRules ["extends_clause", "primary_expression"],
  rankLevels ["unary", "assign"],
  [.level "declaration", .rule "expression"],
  rankRules ["predefined_type", "unary_expression"],
  rankRules ["type", "flow_maybe_type"],
  rankRules ["tuple_type", "array_type", "pattern", "type"],
  rankRules ["readonly_type", "pattern"],
  rankRules ["readonly_type", "primary_expression"],
  rankRules ["type_query", "subscript_expression", "expression"],
  rankRules ["type_query", "_type_query_subscript_expression"],
  rankRules ["nested_type_identifier", "generic_type", "primary_type", "lookup_type",
    "index_type_query", "type"],
  rankRules ["as_expression", "satisfies_expression", "primary_type"],
  rankRules ["_type_query_member_expression", "member_expression"],
  rankRules ["member_expression", "_type_query_member_expression_in_type_annotation"],
  rankRules ["_type_query_member_expression", "primary_expression"],
  rankRules ["_type_query_subscript_expression", "subscript_expression"],
  rankRules ["_type_query_subscript_expression", "primary_expression"],
  rankRules ["_type_query_call_expression", "primary_expression"],
  rankRules ["_type_query_instantiation_expression", "primary_expression"],
  rankRules ["type_query", "primary_expression"],
  rankRules ["override_modifier", "primary_expression"],
  rankRules ["decorator_call_expression", "decorator"],
  rankRules ["literal_type", "pattern"],
  rankRules ["predefined_type", "pattern"],
  rankRules ["call_expression", "_type_query_call_expression"],
  rankRules ["call_expression", "_type_query_call_expression_in_type_annotation"],
  rankRules ["new_expression", "primary_expression"],
  rankRules ["meta_property", "primary_expression"],
  rankRules ["construct_signature", "_property_name"]]

/-- The grammar of TypeScript in a dialect: with markup, or with type assertions in its place. -/
def definition (dialect : List (String × Rule)) : Definition where
  rules := override Script.rules (members ++ declarations ++ types ++ dialect)
  separators := Script.separators
  extras := ["comment", "html_comment"]
  externals := Script.externals ++ [.name "_function_signature_automatic_semicolon"]
  word := some "identifier"
  inlined := (Script.inlined.filter fun n => n != "_formal_parameter" && n != "_call_signature")
    ++ ["_type_identifier", "_jsx_start_opening_element"]
  supertypes := Script.supertypes ++ ["type", "primary_type"]
  ranks
  scanner := Habits.scan ⟨semicolon, asks⟩

def plain : Thunk Grammar :=
  Thunk.mk fun () => (definition plainDialect).compile

def withMarkup : Thunk Grammar :=
  Thunk.mk fun () => (definition markupDialect).compile

end CodeAtlas.Language.TypeScript
