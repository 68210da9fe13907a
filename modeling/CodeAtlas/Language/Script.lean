import CodeAtlas.Grammar.Compile
import CodeAtlas.Language.ScriptScanner

namespace CodeAtlas.Language.Script

open Rule

def commaSep1 (r : Rule) : Rule :=
  sepBy1 "," r

def commaSep (r : Rule) : Rule :=
  sepBy "," r

def named (level : String) (r : Rule) : Rule :=
  prec (.named level) none r

def leftNamed (level : String) (r : Rule) : Rule :=
  prec (.named level) (some .left) r

def rightNamed (level : String) (r : Rule) : Rule :=
  prec (.named level) (some .right) r

/-- Puts rules in the place of those of the same name, and new ones at the end. -/
def override (base changes : List (String × Rule)) : List (String × Rule) :=
  let kept := base.map fun (name, rule) =>
    (name, ((changes.find? (·.1 == name)).map (·.2)).getD rule)
  kept ++ changes.filter fun (name, _) => !base.any (·.1 == name)

def ruleOf (base : List (String × Rule)) (name : String) : Rule :=
  ((base.find? (·.1 == name)).map (·.2)).getD blank

def modules : List (String × Rule) := [
  ("program", all [opt (ref "hash_bang_line"), star (ref "statement")]),
  ("hash_bang_line", pattern (("#!" : Pattern) ++ Pattern.star Pattern.dot)),
  ("export_statement", oneOf [
    all ["export", oneOf [all ["*", ref "_from_clause"],
      all [ref "namespace_export", ref "_from_clause"],
      all [ref "export_clause", ref "_from_clause"], ref "export_clause"], ref "_semicolon"],
    all [star (field "decorator" (ref "decorator")), "export", oneOf [
      field "declaration" (ref "declaration"),
      all ["default", oneOf [field "declaration" (ref "declaration"),
        all [field "value" (ref "expression"), ref "_semicolon"]]]]]]),
  ("namespace_export", all ["*", "as", ref "_module_export_name"]),
  ("export_clause", all ["\x7b", commaSep (ref "export_specifier"), opt ",", "\x7d"]),
  ("export_specifier", all [field "name" (ref "_module_export_name"),
    opt (all ["as", field "alias" (ref "_module_export_name")])]),
  ("_module_export_name", oneOf [ref "identifier", ref "string"]),
  ("declaration", oneOf [ref "function_declaration", ref "generator_function_declaration",
    ref "class_declaration", ref "lexical_declaration", ref "variable_declaration"]),
  ("import", "import"),
  ("import_statement", all ["import", oneOf [all [ref "import_clause", ref "_from_clause"],
    field "source" (ref "string")], opt (ref "import_attribute"), ref "_semicolon"]),
  ("import_clause", oneOf [ref "namespace_import", ref "named_imports",
    all [ref "identifier", opt (all [",", oneOf [ref "namespace_import", ref "named_imports"]])]]),
  ("_from_clause", all ["from", field "source" (ref "string")]),
  ("namespace_import", all ["*", "as", ref "identifier"]),
  ("named_imports", all ["\x7b", commaSep (ref "import_specifier"), opt ",", "\x7d"]),
  ("import_specifier", oneOf [field "name" (ref "identifier"),
    all [field "name" (oneOf [ref "_module_export_name", as "default" "identifier"]), "as",
      field "alias" (ref "identifier")]]),
  ("import_attribute", all ["with", ref "object"])]

def statements : List (String × Rule) := [
  ("statement", oneOf [ref "export_statement", ref "import_statement", ref "debugger_statement",
    ref "expression_statement", ref "declaration", ref "statement_block", ref "if_statement",
    ref "switch_statement", ref "for_statement", ref "for_in_statement", ref "while_statement",
    ref "do_statement", ref "try_statement", ref "with_statement", ref "break_statement",
    ref "continue_statement", ref "return_statement", ref "throw_statement",
    ref "empty_statement", ref "labeled_statement"]),
  ("expression_statement", all [ref "_expressions", ref "_semicolon"]),
  ("variable_declaration", all ["var", commaSep1 (ref "variable_declarator"), ref "_semicolon"]),
  ("lexical_declaration", all [field "kind" (oneOf ["let", "const"]),
    commaSep1 (ref "variable_declarator"), ref "_semicolon"]),
  ("variable_declarator", all [
    field "name" (oneOf [ref "identifier", ref "_destructuring_pattern"]),
    opt (ref "_initializer")]),
  ("statement_block", right (all ["\x7b", star (ref "statement"), "\x7d",
    opt (ref "_automatic_semicolon")])),
  ("else_clause", all ["else", ref "statement"]),
  ("if_statement", right (all ["if", field "condition" (ref "parenthesized_expression"),
    field "consequence" (ref "statement"), opt (field "alternative" (ref "else_clause"))])),
  ("switch_statement", all ["switch", field "value" (ref "parenthesized_expression"),
    field "body" (ref "switch_body")]),
  ("for_statement", all ["for", "(", oneOf [
      field "initializer" (oneOf [ref "lexical_declaration", ref "variable_declaration"]),
      all [field "initializer" (ref "_expressions"), ";"],
      field "initializer" (ref "empty_statement")],
    field "condition" (oneOf [all [ref "_expressions", ";"], ref "empty_statement"]),
    field "increment" (opt (ref "_expressions")), ")", field "body" (ref "statement")]),
  ("for_in_statement", all ["for", opt "await", ref "_for_header", field "body" (ref "statement")]),
  ("_for_header", all ["(", oneOf [
      field "left" (oneOf [ref "_lhs_expression", ref "parenthesized_expression"]),
      all [field "kind" "var",
        field "left" (oneOf [ref "identifier", ref "_destructuring_pattern"]),
        opt (ref "_initializer")],
      all [field "kind" (oneOf ["let", "const"]),
        field "left" (oneOf [ref "identifier", ref "_destructuring_pattern"]),
        opt (ref "_automatic_semicolon")]],
    field "operator" (oneOf ["in", "of"]), field "right" (ref "_expressions"), ")"]),
  ("while_statement", all ["while", field "condition" (ref "parenthesized_expression"),
    field "body" (ref "statement")]),
  ("do_statement", right (all ["do", field "body" (ref "statement"), "while",
    field "condition" (ref "parenthesized_expression"), opt (ref "_semicolon")])),
  ("try_statement", all ["try", field "body" (ref "statement_block"),
    opt (field "handler" (ref "catch_clause")), opt (field "finalizer" (ref "finally_clause"))]),
  ("with_statement", all ["with", field "object" (ref "parenthesized_expression"),
    field "body" (ref "statement")]),
  ("break_statement", all ["break",
    field "label" (opt (as (ref "identifier") "statement_identifier")), ref "_semicolon"]),
  ("continue_statement", all ["continue",
    field "label" (opt (as (ref "identifier") "statement_identifier")), ref "_semicolon"]),
  ("debugger_statement", all ["debugger", ref "_semicolon"]),
  ("return_statement", all ["return", opt (ref "_expressions"), ref "_semicolon"]),
  ("throw_statement", all ["throw", ref "_expressions", ref "_semicolon"]),
  ("empty_statement", ";"),
  ("labeled_statement", dynamic (-1) (all [
    field "label" (as (oneOf [ref "identifier", ref "_reserved_identifier"])
      "statement_identifier"), ":", field "body" (ref "statement")])),
  ("switch_body", all ["\x7b", star (oneOf [ref "switch_case", ref "switch_default"]), "\x7d"]),
  ("switch_case", all ["case", field "value" (ref "_expressions"), ":",
    field "body" (star (ref "statement"))]),
  ("switch_default", all ["default", ":", field "body" (star (ref "statement"))]),
  ("catch_clause", all ["catch", opt (all ["(",
    field "parameter" (oneOf [ref "identifier", ref "_destructuring_pattern"]), ")"]),
    field "body" (ref "statement_block")]),
  ("finally_clause", all ["finally", field "body" (ref "statement_block")]),
  ("parenthesized_expression", all ["(", ref "_expressions", ")"]),
  ("_expressions", oneOf [ref "expression", ref "sequence_expression"])]

def expressions : List (String × Rule) := [
  ("expression", oneOf [ref "primary_expression", ref "_jsx_element", ref "assignment_expression",
    ref "augmented_assignment_expression", ref "await_expression", ref "unary_expression",
    ref "binary_expression", ref "ternary_expression", ref "update_expression",
    ref "new_expression", ref "yield_expression"]),
  ("primary_expression", oneOf [ref "subscript_expression", ref "member_expression",
    ref "parenthesized_expression", ref "_identifier", as (ref "_reserved_identifier") "identifier",
    ref "this", ref "super", ref "number", ref "string", ref "template_string", ref "regex",
    ref "true", ref "false", ref "null", ref "object", ref "array", ref "function_expression",
    ref "arrow_function", ref "generator_function", ref "class", ref "meta_property",
    ref "call_expression"]),
  ("yield_expression", right (all ["yield",
    oneOf [all ["*", ref "expression"], opt (ref "expression")]])),
  ("object", named "object" (all ["\x7b", commaSep (opt (oneOf [ref "pair", ref "spread_element",
    ref "method_definition", as (oneOf [ref "identifier", ref "_reserved_identifier"])
      "shorthand_property_identifier"])), "\x7d"])),
  ("object_pattern", named "object" (all ["\x7b", commaSep (opt (oneOf [ref "pair_pattern",
    ref "rest_pattern", ref "object_assignment_pattern",
    as (oneOf [ref "identifier", ref "_reserved_identifier"])
      "shorthand_property_identifier_pattern"])), "\x7d"])),
  ("assignment_pattern", all [field "left" (ref "pattern"), "=", field "right" (ref "expression")]),
  ("object_assignment_pattern", all [field "left" (oneOf [
    as (oneOf [ref "_reserved_identifier", ref "identifier"])
      "shorthand_property_identifier_pattern", ref "_destructuring_pattern"]), "=",
    field "right" (ref "expression")]),
  ("array", all ["[", commaSep (opt (oneOf [ref "expression", ref "spread_element"])), "]"]),
  ("array_pattern", all ["[", commaSep (opt (oneOf [ref "pattern", ref "assignment_pattern"])),
    "]"])]

def markup : List (String × Rule) := [
  ("jsx_element", all [field "open_tag" (ref "jsx_opening_element"), star (ref "_jsx_child"),
    field "close_tag" (ref "jsx_closing_element")]),
  ("_jsx_element", oneOf [ref "jsx_element", ref "jsx_self_closing_element"]),
  ("html_character_reference", pattern (("&" : Pattern) ++ Pattern.oneOf [
    "#" ++ Pattern.oneOf [
      Pattern.set "xX" ++ Pattern.all ((List.replicate 6 (Pattern.opt (.chars .hexDigit))).set 0
        (.chars .hexDigit)),
      Pattern.all ((List.replicate 5 (Pattern.opt (.chars .digit))).set 0 (.chars .digit))],
    Pattern.all ((List.replicate 30 (Pattern.opt (.chars .letter))).set 0 (.chars .letter))]
    ++ (";" : Pattern))),
  ("jsx_expression", all ["\x7b", opt (oneOf [ref "expression", ref "sequence_expression",
    ref "spread_element"]), "\x7d"]),
  ("_jsx_child", oneOf [ref "jsx_text", ref "html_character_reference", ref "_jsx_element",
    ref "jsx_expression"]),
  ("jsx_opening_element", dynamic (-1) (all ["<", opt (all [
    field "name" (ref "_jsx_element_name"), star (field "attribute" (ref "_jsx_attribute"))]),
    ">"])),
  ("jsx_identifier", pattern (
    Pattern.chars (.letter ++ .of "_$") ++ Pattern.star (.chars (.letter ++ .digit ++ .of "_$"))
      ++ ("-" : Pattern) ++ Pattern.star (.chars (.letter ++ .digit ++ .of "_$-")))),
  ("_jsx_identifier", oneOf [as (ref "jsx_identifier") "identifier", ref "identifier"]),
  ("nested_identifier", named "member" (all [
    field "object" (oneOf [ref "identifier", as (ref "nested_identifier") "member_expression"]),
    ".", field "property" (as (ref "identifier") "property_identifier")])),
  ("jsx_namespace_name", all [ref "_jsx_identifier", ":", ref "_jsx_identifier"]),
  ("_jsx_element_name", oneOf [ref "_jsx_identifier",
    as (ref "nested_identifier") "member_expression", ref "jsx_namespace_name"]),
  ("jsx_closing_element", all ["</", opt (field "name" (ref "_jsx_element_name")), ">"]),
  ("jsx_self_closing_element", all ["<", field "name" (ref "_jsx_element_name"),
    star (field "attribute" (ref "_jsx_attribute")), "/>"]),
  ("_jsx_attribute", oneOf [ref "jsx_attribute", ref "jsx_expression"]),
  ("_jsx_attribute_name", oneOf [as (ref "_jsx_identifier") "property_identifier",
    ref "jsx_namespace_name"]),
  ("jsx_attribute", all [ref "_jsx_attribute_name", opt (all ["=", ref "_jsx_attribute_value"])]),
  ("_jsx_string", oneOf [
    all ["\x22", star (oneOf [as (ref "unescaped_double_jsx_string_fragment") "string_fragment",
      ref "html_character_reference"]), "\x22"],
    all ["\x27", star (oneOf [as (ref "unescaped_single_jsx_string_fragment") "string_fragment",
      ref "html_character_reference"]), "\x27"]]),
  ("unescaped_double_jsx_string_fragment", lexeme {
    body := .pattern (Pattern.plus (Pattern.oneOf [Pattern.notIn "\x22&",
      "&" ++ Pattern.chars (.except (.of "#" ++ .letter))])), immediate := true, level := 1 }),
  ("unescaped_single_jsx_string_fragment", lexeme {
    body := .pattern (Pattern.plus (Pattern.oneOf [Pattern.notIn "\x27&",
      "&" ++ Pattern.chars (.except (.of "#" ++ .letter))])), immediate := true, level := 1 }),
  ("_jsx_attribute_value", oneOf [as (ref "_jsx_string") "string", ref "jsx_expression",
    ref "_jsx_element"])]

def functions : List (String × Rule) := [
  ("class", named "literal" (all [star (field "decorator" (ref "decorator")), "class",
    field "name" (opt (ref "identifier")), opt (ref "class_heritage"),
    field "body" (ref "class_body")])),
  ("class_declaration", named "declaration" (all [star (field "decorator" (ref "decorator")),
    "class", field "name" (ref "identifier"), opt (ref "class_heritage"),
    field "body" (ref "class_body"), opt (ref "_automatic_semicolon")])),
  ("class_heritage", all ["extends", ref "expression"]),
  ("function_expression", named "literal" (all [opt "async", "function",
    field "name" (opt (ref "identifier")), ref "_call_signature",
    field "body" (ref "statement_block")])),
  ("function_declaration", rightNamed "declaration" (all [opt "async", "function",
    field "name" (ref "identifier"), ref "_call_signature", field "body" (ref "statement_block"),
    opt (ref "_automatic_semicolon")])),
  ("generator_function", named "literal" (all [opt "async", "function", "*",
    field "name" (opt (ref "identifier")), ref "_call_signature",
    field "body" (ref "statement_block")])),
  ("generator_function_declaration", rightNamed "declaration" (all [opt "async", "function", "*",
    field "name" (ref "identifier"), ref "_call_signature", field "body" (ref "statement_block"),
    opt (ref "_automatic_semicolon")])),
  ("arrow_function", all [opt "async", oneOf [
      field "parameter" (oneOf [as (ref "_reserved_identifier") "identifier", ref "identifier"]),
      ref "_call_signature"], "=>",
    field "body" (oneOf [ref "expression", ref "statement_block"])]),
  ("_call_signature", field "parameters" (ref "formal_parameters")),
  ("_formal_parameter", oneOf [ref "pattern", ref "assignment_pattern"]),
  ("optional_chain", "?."),
  ("call_expression", oneOf [
    named "call" (all [field "function" (oneOf [ref "expression", ref "import"]),
      field "arguments" (ref "arguments")]),
    named "template_call" (all [
      field "function" (oneOf [ref "primary_expression", ref "new_expression"]),
      field "arguments" (ref "template_string")]),
    named "member" (all [field "function" (ref "primary_expression"),
      field "optional_chain" (ref "optional_chain"), field "arguments" (ref "arguments")])]),
  ("new_expression", rightNamed "new" (all ["new",
    field "constructor" (oneOf [ref "primary_expression", ref "new_expression"]),
    field "arguments" (opt (dynamic 1 (ref "arguments")))])),
  ("await_expression", named "unary_void" (all ["await", ref "expression"])),
  ("member_expression", named "member" (all [
    field "object" (oneOf [ref "expression", ref "primary_expression", ref "import"]),
    oneOf [".", field "optional_chain" (ref "optional_chain")],
    field "property" (oneOf [ref "private_property_identifier",
      as (ref "identifier") "property_identifier"])])),
  ("subscript_expression", rightNamed "member" (all [
    field "object" (oneOf [ref "expression", ref "primary_expression"]),
    opt (field "optional_chain" (ref "optional_chain")), "[",
    field "index" (ref "_expressions"), "]"])),
  ("_lhs_expression", oneOf [ref "member_expression", ref "subscript_expression",
    ref "_identifier", as (ref "_reserved_identifier") "identifier",
    ref "_destructuring_pattern"]),
  ("assignment_expression", rightNamed "assign" (all [
    field "left" (oneOf [ref "parenthesized_expression", ref "_lhs_expression"]), "=",
    field "right" (ref "expression")])),
  ("_augmented_assignment_lhs", oneOf [ref "member_expression", ref "subscript_expression",
    as (ref "_reserved_identifier") "identifier", ref "identifier",
    ref "parenthesized_expression"]),
  ("augmented_assignment_expression", rightNamed "assign" (all [
    field "left" (ref "_augmented_assignment_lhs"),
    field "operator" (oneOf ["+=", "-=", "*=", "/=", "%=", "^=", "&=", "|=", ">>=", ">>>=", "<<=",
      "**=", "&&=", "||=", "??="]), field "right" (ref "expression")])),
  ("_initializer", all ["=", field "value" (ref "expression")]),
  ("_destructuring_pattern", oneOf [ref "object_pattern", ref "array_pattern"]),
  ("spread_element", all ["...", ref "expression"]),
  ("ternary_expression", rightNamed "ternary" (all [field "condition" (ref "expression"),
    asText (ref "_ternary_qmark") "?", field "consequence" (ref "expression"), ":",
    field "alternative" (ref "expression")]))]

def binary (op level : String) : Rule :=
  let operand := if op == "in" then oneOf [ref "expression", ref "private_property_identifier"]
    else ref "expression"
  prec (.named level) (some (if op == "**" then .right else .left)) (all [
    field "left" operand, field "operator" (literal op), field "right" (ref "expression")])

def operators : List (String × Rule) := [
  ("binary_expression", oneOf [binary "&&" "logical_and", binary "||" "logical_or",
    binary ">>" "binary_shift", binary ">>>" "binary_shift", binary "<<" "binary_shift",
    binary "&" "bitwise_and", binary "^" "bitwise_xor", binary "|" "bitwise_or",
    binary "+" "binary_plus", binary "-" "binary_plus", binary "*" "binary_times",
    binary "/" "binary_times", binary "%" "binary_times", binary "**" "binary_exp",
    binary "<" "binary_relation", binary "<=" "binary_relation", binary "==" "binary_equality",
    binary "===" "binary_equality", binary "!=" "binary_equality", binary "!==" "binary_equality",
    binary ">=" "binary_relation", binary ">" "binary_relation", binary "??" "ternary",
    binary "instanceof" "binary_relation", binary "in" "binary_relation"]),
  ("unary_expression", leftNamed "unary_void" (all [
    field "operator" (oneOf ["!", "~", "-", "+", "typeof", "void", "delete"]),
    field "argument" (ref "expression")])),
  ("update_expression", left (oneOf [
    all [field "argument" (ref "expression"), field "operator" (oneOf ["++", "--"])],
    all [field "operator" (oneOf ["++", "--"]), field "argument" (ref "expression")]])),
  ("sequence_expression", right (commaSep1 (ref "expression"))),
  ("string", oneOf [
    all ["\x22", star (oneOf [as (ref "unescaped_double_string_fragment") "string_fragment",
      ref "escape_sequence"]), "\x22"],
    all ["\x27", star (oneOf [as (ref "unescaped_single_string_fragment") "string_fragment",
      ref "escape_sequence"]), "\x27"]])]

def fragment (stop : String) : Rule :=
  lexeme { body := .pattern (Pattern.plus (Pattern.notIn stop)), immediate := true, level := 1 }

open Pattern in
def escape : Pattern :=
  let hex := chars .hexDigit
  let octal := chars .octalDigit
  all ["\\", oneOf [chars (.except (.of "xu" ++ .octalDigit)),
    all [octal, opt octal, opt octal], "x" ++ hex.times 2, "u" ++ hex.times 4,
    all ["u\x7b", plus hex, "\x7d"], all [Pattern.set "\r?", Pattern.set "\n\u2028\u2029"]]]

open Pattern in
def comment : Pattern :=
  oneOf [all ["//", star (notIn "\r\n\u2028\u2029")],
    all ["/*", star (notIn "*"), plus "*", star (all [notIn "/*", star (notIn "*"), plus "*"]), "/"]]

open Pattern in
def regexPattern : Pattern :=
  let escaped := all ["\\", dot]
  plus (oneOf [all ["[", star (oneOf [escaped, notIn "]\n\\"]), "]"], escaped, notIn "/\\[\n"])

open Pattern in
def number : Pattern :=
  let digitsOf (d : CharSet) : Pattern := all [chars d, star (all [opt "_", chars d])]
  let hexLiteral := all ["0", Pattern.set "xX", digitsOf .hexDigit]
  let decimalDigits := digitsOf .digit
  let exponent := all [Pattern.set "eE", opt (Pattern.set "-+"), decimalDigits]
  let binaryLiteral := all ["0", Pattern.set "bB", digitsOf (.range '0' '1')]
  let octalLiteral := all ["0", Pattern.set "oO", digitsOf .octalDigit]
  let big := all [oneOf [hexLiteral, binaryLiteral, octalLiteral, decimalDigits], "n"]
  let integer := oneOf ["0",
    all [opt "0", chars (.range '1' '9'), opt (all [opt "_", decimalDigits])]]
  let decimal := oneOf [all [integer, ".", opt decimalDigits, opt exponent],
    all [".", decimalDigits, opt exponent], all [integer, exponent], decimalDigits]
  oneOf [hexLiteral, decimal, binaryLiteral, octalLiteral, big]

def notInName : CharSet :=
  .range '\x00' '\x1f' ++ .blank ++ .wideBlank
    ++ .of ":;\x60\x22\x27@#.,|^&<=>+-*/\\%?!~()[]\x7b\x7d\ufeff\u2060\u200b\u2028\u2029"

open Pattern in
def unicodeEscape : Pattern :=
  let hex := chars .hexDigit
  oneOf ["\\u" ++ hex.times 4, all ["\\u\x7b", plus hex, "\x7d"]]

def nameStart : Pattern :=
  .oneOf [.chars (.except (notInName ++ .digit)), unicodeEscape]

def nameRest : Pattern :=
  .star (.oneOf [.chars (.except notInName), unicodeEscape])

def tokens : List (String × Rule) := [
  ("unescaped_double_string_fragment", fragment "\x22\\\r\n"),
  ("unescaped_single_string_fragment", fragment "\x27\\\r\n"),
  ("escape_sequence", immediate escape),
  ("comment", pattern comment),
  ("template_string", all ["\x60", star (oneOf [as (ref "_template_chars") "string_fragment",
    ref "escape_sequence", ref "template_substitution"]), "\x60"]),
  ("template_substitution", all ["$\x7b", ref "_expressions", "\x7d"]),
  ("regex", all ["/", field "pattern" (ref "regex_pattern"),
    lexeme { body := .literal "/", immediate := true, level := 1 },
    opt (field "flags" (ref "regex_flags"))]),
  ("regex_pattern", lexeme { body := .pattern regexPattern, immediate := true, level := -1 }),
  ("regex_flags", immediate (Pattern.plus (.chars (.range 'a' 'z')))),
  ("number", pattern number),
  ("identifier", pattern (nameStart ++ nameRest)),
  ("private_property_identifier", pattern ("#" ++ nameStart ++ nameRest)),
  ("meta_property", oneOf [all ["new", ".", "target"], all ["import", ".", "meta"]]),
  ("this", "this"),
  ("super", "super"),
  ("true", "true"),
  ("false", "false"),
  ("null", "null"),
  ("undefined", "undefined")]

def parts : List (String × Rule) := [
  ("arguments", all ["(", commaSep (opt (oneOf [ref "expression", ref "spread_element"])), ")"]),
  ("decorator", all ["@", oneOf [ref "identifier",
    as (ref "decorator_member_expression") "member_expression",
    as (ref "decorator_call_expression") "call_expression"]]),
  ("decorator_member_expression", named "member" (all [
    field "object" (oneOf [ref "identifier",
      as (ref "decorator_member_expression") "member_expression"]), ".",
    field "property" (as (ref "identifier") "property_identifier")])),
  ("decorator_call_expression", named "call" (all [
    field "function" (oneOf [ref "identifier",
      as (ref "decorator_member_expression") "member_expression"]),
    field "arguments" (ref "arguments")])),
  ("class_body", all ["\x7b", star (oneOf [
    all [field "member" (ref "method_definition"), opt ";"],
    all [field "member" (ref "field_definition"), ref "_semicolon"],
    field "member" (ref "class_static_block"), ";"]), "\x7d"]),
  ("field_definition", all [star (field "decorator" (ref "decorator")), opt "static",
    field "property" (ref "_property_name"), opt (ref "_initializer")]),
  ("formal_parameters", all ["(", opt (all [commaSep1 (ref "_formal_parameter"), opt ","]), ")"]),
  ("class_static_block", all ["static", field "body" (ref "statement_block")]),
  ("pattern", dynamic (-1) (oneOf [ref "_lhs_expression", ref "rest_pattern"])),
  ("rest_pattern", right (all ["...", ref "_lhs_expression"])),
  ("method_definition", all [star (field "decorator" (ref "decorator")),
    opt (oneOf ["static", asText (pattern (Pattern.all ["static", .plus (.chars .blank), "get",
      .star (.chars .blank), "\n"])) "static get"]),
    opt "async", opt (oneOf ["get", "set", "*"]), field "name" (ref "_property_name"),
    field "parameters" (ref "formal_parameters"), field "body" (ref "statement_block")]),
  ("pair", all [field "key" (ref "_property_name"), ":", field "value" (ref "expression")]),
  ("pair_pattern", all [field "key" (ref "_property_name"), ":",
    field "value" (oneOf [ref "pattern", ref "assignment_pattern"])]),
  ("_property_name", oneOf [
    as (oneOf [ref "identifier", ref "_reserved_identifier"]) "property_identifier",
    ref "private_property_identifier", ref "string", ref "number",
    ref "computed_property_name"]),
  ("computed_property_name", all ["[", ref "expression", "]"]),
  ("_reserved_identifier", oneOf ["get", "set", "async", "static", "export", "let"]),
  ("_identifier", oneOf [ref "undefined", ref "identifier"]),
  ("_semicolon", oneOf [ref "_automatic_semicolon", ";"])]

def rules : List (String × Rule) :=
  modules ++ statements ++ expressions ++ markup ++ functions ++ operators ++ tokens ++ parts

def separators : CharSet :=
  .blank ++ .wideBlank ++ .of "\ufeff\u2028\u2029\u2060\u200b"

def externals : List External := [
  .name "_automatic_semicolon", .name "_template_chars", .name "_ternary_qmark",
  .name "html_comment", .text "||", .name "escape_sequence", .name "regex_pattern",
  .name "jsx_text"]

def inlined : List String := [
  "_call_signature", "_formal_parameter", "_expressions", "_semicolon", "_identifier",
  "_reserved_identifier", "_jsx_attribute", "_jsx_element_name", "_jsx_child", "_jsx_element",
  "_jsx_attribute_name", "_jsx_attribute_value", "_jsx_identifier", "_lhs_expression"]

def supertypes : List String := [
  "statement", "declaration", "expression", "primary_expression", "pattern"]

/-- Lists of falling precedence, of levels and of rules. -/
def ranks : List (List Rank) := [
  [.level "member", .level "template_call", .level "call", .rule "update_expression",
    .level "unary_void", .level "binary_exp", .level "binary_times", .level "binary_plus",
    .level "binary_shift", .level "binary_compare", .level "binary_relation",
    .level "binary_equality", .level "bitwise_and", .level "bitwise_xor", .level "bitwise_or",
    .level "logical_and", .level "logical_or", .level "ternary", .rule "sequence_expression",
    .rule "arrow_function"],
  [.level "assign", .rule "primary_expression"],
  [.level "member", .level "template_call", .level "new", .level "call", .rule "expression"],
  [.level "declaration", .level "literal"],
  [.rule "primary_expression", .rule "statement_block", .level "object"],
  [.rule "meta_property", .rule "import"],
  [.rule "import_statement", .rule "import"],
  [.rule "export_statement", .rule "primary_expression"],
  [.rule "lexical_declaration", .rule "primary_expression"]]

end CodeAtlas.Language.Script
