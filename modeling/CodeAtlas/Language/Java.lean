import CodeAtlas.Grammar.Compile

namespace CodeAtlas.Language.Java

open Rule

def commaSep1 (r : Rule) : Rule :=
  sepBy1 "," r

def commaSep (r : Rule) : Rule :=
  sepBy "," r

def level (n : Int) (r : Rule) : Rule :=
  prec (.level n) none r

def leftAt (n : Int) (r : Rule) : Rule :=
  prec (.level n) (some .left) r

def rightAt (n : Int) (r : Rule) : Rule :=
  prec (.level n) (some .right) r

/-- Levels of precedence, loosest first. -/
def levelAssign : Int := 1
def levelDeclaration : Int := 2
def levelTernary : Int := 3
def levelOr : Int := 4
def levelAnd : Int := 5
def levelBitOr : Int := 6
def levelBitXor : Int := 7
def levelBitAnd : Int := 8
def levelEquality : Int := 9
def levelRelation : Int := 10
def levelShift : Int := 11
def levelAdd : Int := 12
def levelMultiply : Int := 13
def levelCast : Int := 14
def levelUnary : Int := 15
def levelGeneric : Int := 10
def levelClassLiteral : Int := 17

def name : Rule :=
  oneOf [ref "identifier", ref "_reserved_identifier"]

def typeIdentifier : Rule :=
  as (ref "identifier") "type_identifier"

def annotations : Rule :=
  star (ref "_annotation")

def modifiers : Rule :=
  opt (ref "modifiers")

open Pattern in
def separated (digit : CharSet) : Pattern :=
  all [plus (chars digit), star (all ["_", plus (chars digit)])]

open Pattern in
def digits : Pattern :=
  oneOf ["0", all [chars (.range '1' '9'), opt (all [opt "_", plus (chars .digit),
    star (all [plus "_", plus (chars .digit)])])]]

open Pattern in
def long : Pattern :=
  opt (Pattern.set "lL")

open Pattern in
def exponent : Pattern :=
  all [Pattern.set "eE", opt (Pattern.set "-+"), separated .digit]

open Pattern in
def decimalFloat : Pattern :=
  let suffix := Pattern.set "fFdD"
  oneOf [all [separated .digit, ".", opt (separated .digit), opt exponent, opt suffix],
    all [".", separated .digit, opt exponent, opt suffix],
    all [digits, exponent, opt suffix],
    all [digits, opt exponent, suffix]]

open Pattern in
def hexFloat : Pattern :=
  all ["0", Pattern.set "xX",
    oneOf [all [separated .hexDigit, opt "."], all [opt (separated .hexDigit), ".", separated .hexDigit]],
    opt (all [Pattern.set "eEpP", opt (Pattern.set "-+"), separated .digit,
      opt (Pattern.set "fFdD")])]

open Pattern in
def escape : Pattern :=
  let hex := chars .hexDigit
  let octal := chars .octalDigit
  all ["\\", oneOf [chars (.except (.of "xu" ++ .octalDigit)),
    all [octal, opt octal, opt octal], "x" ++ hex.times 2, "u" ++ hex.times 4,
    all ["u\x7b", plus hex, "\x7d"]]]

open Pattern in
def character : Pattern :=
  all ["\x27", plus (oneOf [notIn "\\\x27\n", all ["\\", dot], "\\\n"]), "\x27"]

open Pattern in
def blockComment : Pattern :=
  all ["/*", star (notIn "*"), plus "*", star (all [notIn "/*", star (notIn "*"), plus "*"]), "/"]

def literals : List (String × Rule) := [
  ("program", star (ref "_toplevel_statement")),
  ("_toplevel_statement", oneOf [ref "statement", ref "method_declaration"]),
  ("_literal", oneOf [ref "decimal_integer_literal", ref "hex_integer_literal",
    ref "octal_integer_literal", ref "binary_integer_literal",
    ref "decimal_floating_point_literal", ref "hex_floating_point_literal", ref "true",
    ref "false", ref "character_literal", ref "string_literal", ref "null_literal"]),
  ("decimal_integer_literal", pattern (digits ++ long)),
  ("hex_integer_literal", pattern (("0" : Pattern) ++ Pattern.set "xX" ++ separated .hexDigit ++ long)),
  ("octal_integer_literal", pattern (("0" : Pattern) ++ Pattern.opt (Pattern.set "oO")
    ++ separated .octalDigit ++ long)),
  ("binary_integer_literal", pattern (("0" : Pattern) ++ Pattern.set "bB"
    ++ separated (.range '0' '1') ++ long)),
  ("decimal_floating_point_literal", pattern decimalFloat),
  ("hex_floating_point_literal", pattern hexFloat),
  ("true", "true"),
  ("false", "false"),
  ("character_literal", pattern character),
  ("string_literal", oneOf [ref "_string_literal", ref "_multiline_string_literal"]),
  ("_string_literal", all ["\x22", star (oneOf [ref "string_fragment", ref "escape_sequence",
    ref "string_interpolation"]), "\x22"]),
  ("_multiline_string_literal", all ["\x22\x22\x22", star (oneOf [
    as (ref "_multiline_string_fragment") "multiline_string_fragment", ref "_escape_sequence",
    ref "string_interpolation"]), "\x22\x22\x22"]),
  ("string_fragment", lexeme {
    body := .pattern (Pattern.plus (Pattern.notIn "\x22\\")), immediate := true, level := 1 }),
  ("_multiline_string_fragment", oneOf [pattern (Pattern.plus (Pattern.notIn "\x22\\")),
    pattern ("\x22" ++ Pattern.star (Pattern.oneOf [Pattern.notIn "\x22\\", "\\\x22"]))]),
  ("string_interpolation", all ["\\\x7b", ref "expression", "\x7d"]),
  ("_escape_sequence", oneOf [
    level 2 (immediate ("\\" ++ Pattern.notIn "bfnrts\x27\x22\\")),
    level 1 (ref "escape_sequence")]),
  ("escape_sequence", lexeme { body := .pattern escape, immediate := true, level := 1 }),
  ("null_literal", "null")]

def binary (op : String) (n : Int) : Rule :=
  leftAt n (all [field "left" (ref "expression"), field "operator" (literal op),
    field "right" (ref "expression")])

def unary (op : String) : Rule :=
  leftAt levelUnary (all [field "operator" (literal op), field "operand" (ref "expression")])

def expressions : List (String × Rule) := [
  ("expression", oneOf [ref "assignment_expression", ref "binary_expression",
    ref "instanceof_expression", ref "lambda_expression", ref "ternary_expression",
    ref "update_expression", ref "primary_expression", ref "unary_expression",
    ref "cast_expression", ref "switch_expression"]),
  ("cast_expression", level levelCast (oneOf [
    all ["(", field "type" (ref "_type"), ")", field "value" (ref "expression")],
    all ["(", sepBy1 "&" (field "type" (ref "_type")), ")",
      field "value" (oneOf [ref "primary_expression", ref "lambda_expression"])]])),
  ("assignment_expression", rightAt levelAssign (all [
    field "left" (oneOf [ref "identifier", ref "_reserved_identifier", ref "field_access",
      ref "array_access"]),
    field "operator" (oneOf ["=", "+=", "-=", "*=", "/=", "&=", "|=", "^=", "%=", "<<=", ">>=",
      ">>>="]), field "right" (ref "expression")])),
  ("binary_expression", oneOf [binary ">" levelRelation, binary "<" levelRelation,
    binary ">=" levelRelation, binary "<=" levelRelation, binary "==" levelEquality,
    binary "!=" levelEquality, binary "&&" levelAnd, binary "||" levelOr, binary "+" levelAdd,
    binary "-" levelAdd, binary "*" levelMultiply, binary "/" levelMultiply,
    binary "&" levelBitAnd, binary "|" levelBitOr, binary "^" levelBitXor,
    binary "%" levelMultiply, binary "<<" levelShift, binary ">>" levelShift,
    binary ">>>" levelShift]),
  ("instanceof_expression", level levelRelation (all [field "left" (ref "expression"),
    "instanceof", opt "final", oneOf [
      all [field "right" (ref "_type"), opt (field "name" name)],
      field "pattern" (ref "record_pattern")]])),
  ("lambda_expression", all [field "parameters" (oneOf [ref "identifier",
    ref "formal_parameters", ref "inferred_parameters", ref "_reserved_identifier"]), "->",
    field "body" (oneOf [ref "expression", ref "block"])]),
  ("inferred_parameters", all ["(", commaSep1 name, ")"]),
  ("ternary_expression", rightAt levelTernary (all [field "condition" (ref "expression"), "?",
    field "consequence" (ref "expression"), ":", field "alternative" (ref "expression")])),
  ("unary_expression", oneOf [unary "+", unary "-", unary "!", unary "~"]),
  ("update_expression", leftAt levelUnary (oneOf [all [ref "expression", "++"],
    all [ref "expression", "--"], all ["++", ref "expression"], all ["--", ref "expression"]])),
  ("primary_expression", oneOf [ref "_literal", ref "class_literal", ref "this", ref "identifier",
    ref "_reserved_identifier", ref "parenthesized_expression",
    ref "object_creation_expression", ref "field_access", ref "array_access",
    ref "method_invocation", ref "method_reference", ref "array_creation_expression",
    ref "template_expression"]),
  ("array_creation_expression", right (all ["new", annotations, field "type" (ref "_simple_type"),
    oneOf [all [field "dimensions" (many (ref "dimensions_expr")),
        field "dimensions" (opt (ref "dimensions"))],
      all [field "dimensions" (ref "dimensions"), field "value" (ref "array_initializer")]]])),
  ("dimensions_expr", all [annotations, "[", ref "expression", "]"]),
  ("parenthesized_expression", all ["(", ref "expression", ")"]),
  ("class_literal", dynamic levelClassLiteral (all [ref "_unannotated_type", ".", "class"])),
  ("object_creation_expression", oneOf [ref "_unqualified_object_creation_expression",
    all [ref "primary_expression", ".", ref "_unqualified_object_creation_expression"]]),
  ("_unqualified_object_creation_expression", right (all ["new",
    oneOf [all [annotations, field "type_arguments" (ref "type_arguments"), annotations],
      annotations],
    field "type" (ref "_simple_type"), field "arguments" (ref "argument_list"),
    opt (ref "class_body")])),
  ("field_access", all [field "object" (oneOf [ref "primary_expression", ref "super"]),
    opt (all [".", ref "super"]), ".",
    field "field" (oneOf [ref "identifier", ref "_reserved_identifier", ref "this"])]),
  ("template_expression", all [field "template_processor" (ref "primary_expression"), ".",
    field "template_argument" (ref "string_literal")]),
  ("array_access", all [field "array" (ref "primary_expression"), "[",
    field "index" (ref "expression"), "]"]),
  ("method_invocation", all [oneOf [field "name" name,
      all [field "object" (oneOf [ref "primary_expression", ref "super"]), ".",
        opt (all [ref "super", "."]), field "type_arguments" (opt (ref "type_arguments")),
        field "name" name]],
    field "arguments" (ref "argument_list")]),
  ("argument_list", all ["(", commaSep (ref "expression"), ")"]),
  ("method_reference", all [oneOf [ref "_type", ref "primary_expression", ref "super"], "::",
    opt (ref "type_arguments"), oneOf ["new", ref "identifier"]]),
  ("type_arguments", all ["<", commaSep (oneOf [ref "_type", ref "wildcard"]), ">"]),
  ("wildcard", all [annotations, "?", opt (ref "_wildcard_bounds")]),
  ("_wildcard_bounds", oneOf [all ["extends", ref "_type"], all [ref "super", ref "_type"]]),
  ("dimensions", right (many (all [annotations, "[", "]"]))),
  ("switch_expression", all ["switch", field "condition" (ref "parenthesized_expression"),
    field "body" (ref "switch_block")]),
  ("switch_block", all ["\x7b", oneOf [star (ref "switch_block_statement_group"),
    star (ref "switch_rule")], "\x7d"]),
  ("switch_block_statement_group", left (all [many (all [ref "switch_label", ":"]),
    star (ref "statement")])),
  ("switch_rule", all [ref "switch_label", "->", oneOf [ref "expression_statement",
    ref "throw_statement", ref "block"]]),
  ("switch_label", oneOf [all ["case", oneOf [ref "pattern", commaSep1 (ref "expression")],
    opt (ref "guard")], "default"]),
  ("pattern", oneOf [ref "type_pattern", ref "record_pattern"]),
  ("type_pattern", all [ref "_unannotated_type", name]),
  ("record_pattern", all [oneOf [ref "identifier", ref "_reserved_identifier",
    ref "generic_type"], ref "record_pattern_body"]),
  ("record_pattern_body", all ["(", commaSep (oneOf [ref "record_pattern_component",
    ref "record_pattern"]), ")"]),
  ("record_pattern_component", oneOf [ref "underscore_pattern",
    all [ref "_unannotated_type", name]]),
  ("underscore_pattern", "_"),
  ("guard", all ["when", ref "expression"])]

def statements : List (String × Rule) := [
  ("statement", oneOf [ref "declaration", ref "expression_statement", ref "labeled_statement",
    ref "if_statement", ref "while_statement", ref "for_statement", ref "enhanced_for_statement",
    ref "block", ";", ref "assert_statement", ref "do_statement", ref "break_statement",
    ref "continue_statement", ref "return_statement", ref "yield_statement",
    ref "switch_expression", ref "synchronized_statement", ref "local_variable_declaration",
    ref "throw_statement", ref "try_statement", ref "try_with_resources_statement"]),
  ("block", all ["\x7b", star (ref "statement"), "\x7d"]),
  ("expression_statement", all [ref "expression", ";"]),
  ("labeled_statement", all [ref "identifier", ":", ref "statement"]),
  ("assert_statement", oneOf [all ["assert", ref "expression", ";"],
    all ["assert", ref "expression", ":", ref "expression", ";"]]),
  ("do_statement", all ["do", field "body" (ref "statement"), "while",
    field "condition" (ref "parenthesized_expression"), ";"]),
  ("break_statement", all ["break", opt (ref "identifier"), ";"]),
  ("continue_statement", all ["continue", opt (ref "identifier"), ";"]),
  ("return_statement", all ["return", opt (ref "expression"), ";"]),
  ("yield_statement", all ["yield", ref "expression", ";"]),
  ("synchronized_statement", all ["synchronized", ref "parenthesized_expression",
    field "body" (ref "block")]),
  ("throw_statement", all ["throw", ref "expression", ";"]),
  ("try_statement", all ["try", field "body" (ref "block"), oneOf [many (ref "catch_clause"),
    all [star (ref "catch_clause"), ref "finally_clause"]]]),
  ("catch_clause", all ["catch", "(", ref "catch_formal_parameter", ")",
    field "body" (ref "block")]),
  ("catch_formal_parameter", all [modifiers, ref "catch_type", ref "_variable_declarator_id"]),
  ("catch_type", sepBy1 "|" (ref "_unannotated_type")),
  ("finally_clause", all ["finally", ref "block"]),
  ("try_with_resources_statement", all ["try", field "resources" (ref "resource_specification"),
    field "body" (ref "block"), star (ref "catch_clause"), opt (ref "finally_clause")]),
  ("resource_specification", all ["(", sepBy1 ";" (ref "resource"), opt ";", ")"]),
  ("resource", oneOf [all [modifiers, field "type" (ref "_unannotated_type"),
    ref "_variable_declarator_id", "=", field "value" (ref "expression")], ref "identifier",
    ref "field_access"]),
  ("if_statement", right (all ["if", field "condition" (ref "parenthesized_expression"),
    field "consequence" (ref "statement"), opt (all ["else",
      field "alternative" (ref "statement")])])),
  ("while_statement", all ["while", field "condition" (ref "parenthesized_expression"),
    field "body" (ref "statement")]),
  ("for_statement", all ["for", "(", oneOf [field "init" (ref "local_variable_declaration"),
      all [commaSep (field "init" (ref "expression")), ";"]],
    field "condition" (opt (ref "expression")), ";", commaSep (field "update" (ref "expression")),
    ")", field "body" (ref "statement")]),
  ("enhanced_for_statement", all ["for", "(", modifiers, field "type" (ref "_unannotated_type"),
    ref "_variable_declarator_id", ":", field "value" (ref "expression"), ")",
    field "body" (ref "statement")]),
  ("_annotation", oneOf [ref "marker_annotation", ref "annotation"]),
  ("marker_annotation", all ["@", field "name" (ref "_name")]),
  ("annotation", all ["@", field "name" (ref "_name"),
    field "arguments" (ref "annotation_argument_list")]),
  ("annotation_argument_list", all ["(", oneOf [ref "_element_value",
    commaSep (ref "element_value_pair")], ")"]),
  ("element_value_pair", all [field "key" name, "=", field "value" (ref "_element_value")]),
  ("_element_value", level levelDeclaration (oneOf [ref "expression",
    ref "element_value_array_initializer", ref "_annotation"])),
  ("element_value_array_initializer", all ["\x7b", commaSep (ref "_element_value"), opt ",",
    "\x7d"])]

def units : List (String × Rule) := [
  ("declaration", level levelDeclaration (oneOf [ref "module_declaration",
    ref "package_declaration", ref "import_declaration", ref "class_declaration",
    ref "record_declaration", ref "interface_declaration", ref "annotation_type_declaration",
    ref "enum_declaration"])),
  ("module_declaration", all [annotations, opt "open", "module", field "name" (ref "_name"),
    field "body" (ref "module_body")]),
  ("module_body", all ["\x7b", star (ref "module_directive"), "\x7d"]),
  ("module_directive", oneOf [ref "requires_module_directive", ref "exports_module_directive",
    ref "opens_module_directive", ref "uses_module_directive", ref "provides_module_directive"]),
  ("requires_module_directive", all ["requires", star (field "modifiers" (ref "requires_modifier")),
    field "module" (ref "_name"), ";"]),
  ("requires_modifier", oneOf ["transitive", "static"]),
  ("exports_module_directive", all ["exports", field "package" (ref "_name"),
    opt (all ["to", sepBy1 "," (field "modules" (ref "_name"))]), ";"]),
  ("opens_module_directive", all ["opens", field "package" (ref "_name"),
    opt (all ["to", sepBy1 "," (field "modules" (ref "_name"))]), ";"]),
  ("uses_module_directive", all ["uses", field "type" (ref "_name"), ";"]),
  ("provides_module_directive", all ["provides", field "provided" (ref "_name"), "with",
    ref "_name", star (all [",", field "provider" (ref "_name")]), ";"]),
  ("package_declaration", all [annotations, "package", ref "_name", ";"]),
  ("import_declaration", all ["import", opt "static", ref "_name",
    opt (all [".", ref "asterisk"]), ";"]),
  ("asterisk", "*")]

def declarations : List (String × Rule) := [
  ("enum_declaration", all [modifiers, "enum", field "name" (ref "identifier"),
    field "interfaces" (opt (ref "super_interfaces")), field "body" (ref "enum_body")]),
  ("enum_body", all ["\x7b", commaSep (ref "enum_constant"), opt ",",
    opt (ref "enum_body_declarations"), "\x7d"]),
  ("enum_body_declarations", all [";", star (ref "_class_body_declaration")]),
  ("enum_constant", all [modifiers, field "name" (ref "identifier"),
    field "arguments" (opt (ref "argument_list")), field "body" (opt (ref "class_body"))]),
  ("class_declaration", all [modifiers, "class", field "name" (ref "identifier"),
    opt (field "type_parameters" (ref "type_parameters")),
    opt (field "superclass" (ref "superclass")),
    opt (field "interfaces" (ref "super_interfaces")), opt (field "permits" (ref "permits")),
    field "body" (ref "class_body")]),
  ("modifiers", many (oneOf [ref "_annotation", "public", "protected", "private", "abstract",
    "static", "final", "strictfp", "default", "synchronized", "native", "transient", "volatile",
    "sealed", "non-sealed"])),
  ("type_parameters", all ["<", commaSep1 (ref "type_parameter"), ">"]),
  ("type_parameter", all [annotations, typeIdentifier, opt (ref "type_bound")]),
  ("type_bound", all ["extends", ref "_type", star (all ["&", ref "_type"])]),
  ("superclass", all ["extends", ref "_type"]),
  ("super_interfaces", all ["implements", ref "type_list"]),
  ("type_list", all [ref "_type", star (all [",", ref "_type"])]),
  ("permits", all ["permits", ref "type_list"]),
  ("class_body", all ["\x7b", star (ref "_class_body_declaration"), "\x7d"]),
  ("_class_body_declaration", oneOf [ref "field_declaration", ref "record_declaration",
    ref "method_declaration", ref "compact_constructor_declaration", ref "class_declaration",
    ref "interface_declaration", ref "annotation_type_declaration", ref "enum_declaration",
    ref "block", ref "static_initializer", ref "constructor_declaration", ";"]),
  ("static_initializer", all ["static", ref "block"]),
  ("constructor_declaration", all [modifiers, ref "_constructor_declarator", opt (ref "throws"),
    field "body" (ref "constructor_body")]),
  ("_constructor_declarator", all [field "type_parameters" (opt (ref "type_parameters")),
    field "name" (ref "identifier"), field "parameters" (ref "formal_parameters")]),
  ("constructor_body", all ["\x7b", opt (ref "explicit_constructor_invocation"),
    star (ref "statement"), "\x7d"]),
  ("explicit_constructor_invocation", all [oneOf [
      all [field "type_arguments" (opt (ref "type_arguments")),
        field "constructor" (oneOf [ref "this", ref "super"])],
      all [field "object" (ref "primary_expression"), ".",
        field "type_arguments" (opt (ref "type_arguments")), field "constructor" (ref "super")]],
    field "arguments" (ref "argument_list"), ";"]),
  ("_name", oneOf [ref "identifier", ref "_reserved_identifier", ref "scoped_identifier"]),
  ("scoped_identifier", all [field "scope" (ref "_name"), ".", field "name" name]),
  ("field_declaration", all [modifiers, field "type" (ref "_unannotated_type"),
    ref "_variable_declarator_list", ";"]),
  ("record_declaration", all [modifiers, "record", field "name" (ref "identifier"),
    opt (field "type_parameters" (ref "type_parameters")),
    field "parameters" (ref "formal_parameters"),
    opt (field "interfaces" (ref "super_interfaces")), field "body" (ref "class_body")]),
  ("annotation_type_declaration", all [modifiers, "@interface", field "name" (ref "identifier"),
    field "body" (ref "annotation_type_body")]),
  ("annotation_type_body", all ["\x7b", star (oneOf [ref "annotation_type_element_declaration",
    ref "constant_declaration", ref "class_declaration", ref "interface_declaration",
    ref "enum_declaration", ref "annotation_type_declaration", ";"]), "\x7d"]),
  ("annotation_type_element_declaration", all [modifiers, field "type" (ref "_unannotated_type"),
    field "name" name, "(", ")", field "dimensions" (opt (ref "dimensions")),
    opt (ref "_default_value"), ";"]),
  ("_default_value", all ["default", field "value" (ref "_element_value")]),
  ("interface_declaration", all [modifiers, "interface", field "name" (ref "identifier"),
    field "type_parameters" (opt (ref "type_parameters")), opt (ref "extends_interfaces"),
    opt (field "permits" (ref "permits")), field "body" (ref "interface_body")]),
  ("extends_interfaces", all ["extends", ref "type_list"]),
  ("interface_body", all ["\x7b", star (oneOf [ref "constant_declaration", ref "enum_declaration",
    ref "method_declaration", ref "class_declaration", ref "interface_declaration",
    ref "record_declaration", ref "annotation_type_declaration", ";"]), "\x7d"]),
  ("constant_declaration", all [modifiers, field "type" (ref "_unannotated_type"),
    ref "_variable_declarator_list", ";"]),
  ("_variable_declarator_list", commaSep1 (field "declarator" (ref "variable_declarator"))),
  ("variable_declarator", all [ref "_variable_declarator_id",
    opt (all ["=", field "value" (ref "_variable_initializer")])]),
  ("_variable_declarator_id", all [
    field "name" (oneOf [ref "identifier", ref "_reserved_identifier", ref "underscore_pattern"]),
    field "dimensions" (opt (ref "dimensions"))]),
  ("_variable_initializer", oneOf [ref "expression", ref "array_initializer"]),
  ("array_initializer", all ["\x7b", commaSep (ref "_variable_initializer"), opt ",", "\x7d"])]

def types : List (String × Rule) := [
  ("_type", oneOf [ref "_unannotated_type", ref "annotated_type"]),
  ("_unannotated_type", oneOf [ref "_simple_type", ref "array_type"]),
  ("_simple_type", oneOf [ref "void_type", ref "integral_type", ref "floating_point_type",
    ref "boolean_type", typeIdentifier, ref "scoped_type_identifier", ref "generic_type"]),
  ("annotated_type", all [many (ref "_annotation"), ref "_unannotated_type"]),
  ("scoped_type_identifier", all [oneOf [typeIdentifier, ref "scoped_type_identifier",
    ref "generic_type"], ".", annotations, typeIdentifier]),
  ("generic_type", dynamic levelGeneric (all [
    oneOf [typeIdentifier, ref "scoped_type_identifier"], ref "type_arguments"])),
  ("array_type", all [field "element" (ref "_unannotated_type"),
    field "dimensions" (ref "dimensions")]),
  ("integral_type", oneOf ["byte", "short", "int", "long", "char"]),
  ("floating_point_type", oneOf ["float", "double"]),
  ("boolean_type", "boolean"),
  ("void_type", "void"),
  ("_method_header", all [opt (all [field "type_parameters" (ref "type_parameters"), annotations]),
    field "type" (ref "_unannotated_type"), ref "_method_declarator", opt (ref "throws")]),
  ("_method_declarator", all [field "name" name, field "parameters" (ref "formal_parameters"),
    field "dimensions" (opt (ref "dimensions"))]),
  ("formal_parameters", all ["(", oneOf [ref "receiver_parameter",
    all [opt (all [ref "receiver_parameter", ","]),
      commaSep (oneOf [ref "formal_parameter", ref "spread_parameter"])]], ")"]),
  ("formal_parameter", all [modifiers, field "type" (ref "_unannotated_type"),
    ref "_variable_declarator_id"]),
  ("receiver_parameter", all [annotations, ref "_unannotated_type",
    star (all [ref "identifier", "."]), ref "this"]),
  ("spread_parameter", all [modifiers, ref "_unannotated_type", "...", annotations,
    ref "variable_declarator"]),
  ("throws", all ["throws", commaSep1 (ref "_type")]),
  ("local_variable_declaration", all [modifiers, field "type" (ref "_unannotated_type"),
    ref "_variable_declarator_list", ";"]),
  ("method_declaration", all [modifiers, ref "_method_header",
    oneOf [field "body" (ref "block"), ";"]]),
  ("compact_constructor_declaration", all [modifiers, field "name" (ref "identifier"),
    field "body" (ref "block")]),
  ("_reserved_identifier", level (-3)
    (as (oneOf ["open", "module", "record", "with", "sealed"]) "identifier")),
  ("this", "this"),
  ("super", "super"),
  ("identifier", pattern (Pattern.chars (.identifierStart ++ .of "_$")
    ++ Pattern.star (.chars (.identifierContinue ++ .of "\u00a2_$")))),
  ("line_comment", pattern ("//" ++ Pattern.star Pattern.dot)),
  ("block_comment", pattern blockComment)]

def definition : Definition where
  rules := literals ++ expressions ++ statements ++ units ++ declarations ++ types
  separators := .blank
  extras := ["line_comment", "block_comment"]
  word := some "identifier"
  inlined := ["_name", "_class_body_declaration"]
  supertypes := ["expression", "declaration", "statement", "primary_expression", "_literal",
    "_type", "_simple_type", "_unannotated_type", "module_directive"]

def grammar : Thunk Grammar :=
  Thunk.mk fun () => definition.compile

end CodeAtlas.Language.Java
