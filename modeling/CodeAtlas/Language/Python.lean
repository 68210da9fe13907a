import CodeAtlas.Grammar.Compile
import CodeAtlas.Language.PythonScanner

namespace CodeAtlas.Language.Python

open Rule

def commaSep1 (r : Rule) : Rule :=
  sepBy1 "," r

/-- Precedence levels, loosest first where positive. -/
def levelOf (name : String) : Int :=
  match name with
  | "lambda" => -2
  | "typed" | "conditional" => -1
  | "parenthesized" => 1
  | "or" => 10
  | "and" => 11
  | "not" => 12
  | "compare" => 13
  | "|" => 14
  | "&" => 15
  | "^" => 16
  | "shift" => 17
  | "plus" => 18
  | "times" => 19
  | "unary" => 20
  | "power" => 21
  | _ => 22

def at_ (name : String) (r : Rule) : Rule :=
  prec (.level (levelOf name)) none r

def leftAt (name : String) (r : Rule) : Rule :=
  prec (.level (levelOf name)) (some .left) r

def rightAt (name : String) (r : Rule) : Rule :=
  prec (.level (levelOf name)) (some .right) r

def at1 (r : Rule) : Rule :=
  prec (.level 1) none r

def statements : List (String × Rule) := [
  ("module", star (ref "_statement")),
  ("_statement", oneOf [ref "_simple_statements", ref "_compound_statement"]),
  ("_simple_statements", all [sepBy1 ";" (ref "_simple_statement"), opt ";", ref "_newline"]),
  ("_simple_statement", oneOf [
    ref "future_import_statement", ref "import_statement", ref "import_from_statement",
    ref "print_statement", ref "assert_statement", ref "expression_statement",
    ref "return_statement", ref "delete_statement", ref "raise_statement", ref "pass_statement",
    ref "break_statement", ref "continue_statement", ref "global_statement",
    ref "nonlocal_statement", ref "exec_statement", ref "type_alias_statement"]),
  ("import_statement", all ["import", ref "_import_list"]),
  ("import_prefix", many "."),
  ("relative_import", all [ref "import_prefix", opt (ref "dotted_name")]),
  ("future_import_statement", all ["from", "__future__", "import",
    oneOf [ref "_import_list", all ["(", ref "_import_list", ")"]]]),
  ("import_from_statement", all ["from",
    field "module_name" (oneOf [ref "relative_import", ref "dotted_name"]), "import",
    oneOf [ref "wildcard_import", ref "_import_list", all ["(", ref "_import_list", ")"]]]),
  ("_import_list", all [
    commaSep1 (field "name" (oneOf [ref "dotted_name", ref "aliased_import"])), opt ","]),
  ("aliased_import", all [field "name" (ref "dotted_name"), "as", field "alias" (ref "identifier")]),
  ("wildcard_import", "*"),
  ("print_statement", oneOf [
    at1 (all ["print", ref "chevron", star (all [",", field "argument" (ref "expression")]), opt ","]),
    prec (.level (-3)) none (dynamic (-1) (all ["print",
      commaSep1 (field "argument" (ref "expression")), opt ","]))]),
  ("chevron", all [">>", ref "expression"]),
  ("assert_statement", all ["assert", commaSep1 (ref "expression")]),
  ("expression_statement", oneOf [ref "expression", all [commaSep1 (ref "expression"), opt ","],
    ref "assignment", ref "augmented_assignment", ref "yield"]),
  ("named_expression", all [field "name" (ref "_named_expression_lhs"), ":=",
    field "value" (ref "expression")]),
  ("_named_expression_lhs", oneOf [ref "identifier", ref "keyword_identifier"]),
  ("return_statement", all ["return", opt (ref "_expressions")]),
  ("delete_statement", all ["del", ref "_expressions"]),
  ("_expressions", oneOf [ref "expression", ref "expression_list"]),
  ("raise_statement", all ["raise", opt (ref "_expressions"),
    opt (all ["from", field "cause" (ref "expression")])]),
  ("pass_statement", left "pass"),
  ("break_statement", left "break"),
  ("continue_statement", left "continue")]

def compounds : List (String × Rule) := [
  ("_compound_statement", oneOf [ref "if_statement", ref "for_statement", ref "while_statement",
    ref "try_statement", ref "with_statement", ref "function_definition", ref "class_definition",
    ref "decorated_definition", ref "match_statement"]),
  ("if_statement", all ["if", field "condition" (ref "expression"), ":",
    field "consequence" (ref "_suite"), star (field "alternative" (ref "elif_clause")),
    opt (field "alternative" (ref "else_clause"))]),
  ("elif_clause", all ["elif", field "condition" (ref "expression"), ":",
    field "consequence" (ref "_suite")]),
  ("else_clause", all ["else", ":", field "body" (ref "_suite")]),
  ("match_statement", all ["match", commaSep1 (field "subject" (ref "expression")), opt ",", ":",
    field "body" (as (ref "_match_block") "block")]),
  ("_match_block", oneOf [
    all [ref "_indent", star (field "alternative" (ref "case_clause")), ref "_dedent"],
    ref "_newline"]),
  ("case_clause", all ["case", commaSep1 (ref "case_pattern"), opt ",",
    opt (field "guard" (ref "if_clause")), ":", field "consequence" (ref "_suite")]),
  ("for_statement", all [opt "async", "for", field "left" (ref "_left_hand_side"), "in",
    field "right" (ref "_expressions"), ":", field "body" (ref "_suite"),
    field "alternative" (opt (ref "else_clause"))]),
  ("while_statement", all ["while", field "condition" (ref "expression"), ":",
    field "body" (ref "_suite"), opt (field "alternative" (ref "else_clause"))]),
  ("try_statement", all ["try", ":", field "body" (ref "_suite"), oneOf [
    all [many (ref "except_clause"), opt (ref "else_clause"), opt (ref "finally_clause")],
    all [many (ref "except_group_clause"), opt (ref "else_clause"), opt (ref "finally_clause")],
    ref "finally_clause"]]),
  ("except_clause", all ["except", opt (all [ref "expression",
    opt (all [oneOf ["as", ","], ref "expression"])]), ":", ref "_suite"]),
  ("except_group_clause", all ["except*", all [ref "expression",
    opt (all ["as", ref "expression"])], ":", ref "_suite"]),
  ("finally_clause", all ["finally", ":", ref "_suite"]),
  ("with_statement", all [opt "async", "with", ref "with_clause", ":", field "body" (ref "_suite")]),
  ("with_clause", oneOf [all [commaSep1 (ref "with_item"), opt ","],
    all ["(", commaSep1 (ref "with_item"), opt ",", ")"]]),
  ("with_item", dynamic 1 (field "value" (ref "expression"))),
  ("function_definition", all [opt "async", "def", field "name" (ref "identifier"),
    field "type_parameters" (opt (ref "type_parameter")), field "parameters" (ref "parameters"),
    opt (all ["->", field "return_type" (ref "type")]), ":", field "body" (ref "_suite")]),
  ("parameters", all ["(", opt (ref "_parameters"), ")"]),
  ("lambda_parameters", ref "_parameters"),
  ("list_splat", all ["*", ref "expression"]),
  ("dictionary_splat", all ["**", ref "expression"]),
  ("global_statement", all ["global", commaSep1 (ref "identifier")]),
  ("nonlocal_statement", all ["nonlocal", commaSep1 (ref "identifier")]),
  ("exec_statement", all ["exec", field "code" (oneOf [ref "string", ref "identifier"]),
    opt (all ["in", commaSep1 (ref "expression")])]),
  ("type_alias_statement", dynamic 1 (all ["type", field "left" (ref "type"), "=",
    field "right" (ref "type")])),
  ("class_definition", all ["class", field "name" (ref "identifier"),
    field "type_parameters" (opt (ref "type_parameter")),
    field "superclasses" (opt (ref "argument_list")), ":", field "body" (ref "_suite")]),
  ("type_parameter", all ["[", commaSep1 (ref "type"), opt ",", "]"]),
  ("parenthesized_list_splat", at_ "parenthesized" (all ["(",
    oneOf [as (ref "parenthesized_list_splat") "parenthesized_expression", ref "list_splat"], ")"])),
  ("argument_list", all ["(", opt (commaSep1 (oneOf [ref "expression", ref "list_splat",
    ref "dictionary_splat", as (ref "parenthesized_list_splat") "parenthesized_expression",
    ref "keyword_argument"])), opt ",", ")"]),
  ("decorated_definition", all [many (ref "decorator"),
    field "definition" (oneOf [ref "class_definition", ref "function_definition"])]),
  ("decorator", all ["@", ref "expression", ref "_newline"]),
  ("_suite", oneOf [as (ref "_simple_statements") "block", all [ref "_indent", ref "block"],
    as (ref "_newline") "block"]),
  ("block", all [star (ref "_statement"), ref "_dedent"]),
  ("expression_list", right (all [ref "expression", oneOf [",",
    all [many (all [",", ref "expression"]), opt ","]]])),
  ("dotted_name", at1 (sepBy1 "." (ref "identifier")))]

def patterns : List (String × Rule) := [
  ("case_pattern", at1 (oneOf [as (ref "_as_pattern") "as_pattern", ref "keyword_pattern",
    ref "_simple_pattern"])),
  ("_simple_pattern", at1 (oneOf [ref "class_pattern", ref "splat_pattern", ref "union_pattern",
    as (ref "_list_pattern") "list_pattern", as (ref "_tuple_pattern") "tuple_pattern",
    ref "dict_pattern", ref "string", ref "concatenated_string", ref "true", ref "false",
    ref "none", all [opt "-", oneOf [ref "integer", ref "float"]], ref "complex_pattern",
    ref "dotted_name", "_"])),
  ("_as_pattern", all [ref "case_pattern", "as", ref "identifier"]),
  ("union_pattern", right (all [ref "_simple_pattern",
    many (left (all ["|", ref "_simple_pattern"]))])),
  ("_list_pattern", all ["[", opt (all [commaSep1 (ref "case_pattern"), opt ","]), "]"]),
  ("_tuple_pattern", all ["(", opt (all [commaSep1 (ref "case_pattern"), opt ","]), ")"]),
  ("dict_pattern", all ["\x7b", opt (all [
    commaSep1 (oneOf [ref "_key_value_pattern", ref "splat_pattern"]), opt ","]), "\x7d"]),
  ("_key_value_pattern", all [field "key" (ref "_simple_pattern"), ":",
    field "value" (ref "case_pattern")]),
  ("keyword_pattern", all [ref "identifier", "=", ref "_simple_pattern"]),
  ("splat_pattern", at1 (all [oneOf ["*", "**"], oneOf [ref "identifier", "_"]])),
  ("class_pattern", all [ref "dotted_name", "(",
    opt (all [commaSep1 (ref "case_pattern"), opt ","]), ")"]),
  ("complex_pattern", at1 (all [opt "-", oneOf [ref "integer", ref "float"], oneOf ["+", "-"],
    oneOf [ref "integer", ref "float"]])),
  ("_parameters", all [commaSep1 (ref "parameter"), opt ","]),
  ("_patterns", all [commaSep1 (ref "pattern"), opt ","]),
  ("parameter", oneOf [ref "identifier", ref "typed_parameter", ref "default_parameter",
    ref "typed_default_parameter", ref "list_splat_pattern", ref "tuple_pattern",
    ref "keyword_separator", ref "positional_separator", ref "dictionary_splat_pattern"]),
  ("pattern", oneOf [ref "identifier", ref "keyword_identifier", ref "subscript", ref "attribute",
    ref "list_splat_pattern", ref "tuple_pattern", ref "list_pattern"]),
  ("tuple_pattern", all ["(", opt (ref "_patterns"), ")"]),
  ("list_pattern", all ["[", opt (ref "_patterns"), "]"]),
  ("default_parameter", all [field "name" (oneOf [ref "identifier", ref "tuple_pattern"]), "=",
    field "value" (ref "expression")]),
  ("typed_default_parameter", at_ "typed" (all [field "name" (ref "identifier"), ":",
    field "type" (ref "type"), "=", field "value" (ref "expression")])),
  ("list_splat_pattern", all ["*", oneOf [ref "identifier", ref "keyword_identifier",
    ref "subscript", ref "attribute"]]),
  ("dictionary_splat_pattern", all ["**", oneOf [ref "identifier", ref "keyword_identifier",
    ref "subscript", ref "attribute"]]),
  ("as_pattern", left (all [ref "expression", "as",
    field "alias" (as (ref "expression") "as_pattern_target")]))]

def binary (side : Associativity) (op level : String) : Rule :=
  prec (.level (levelOf level)) (some side) (all [field "left" (ref "primary_expression"),
    field "operator" (literal op), field "right" (ref "primary_expression")])

def expressions : List (String × Rule) := [
  ("_expression_within_for_in_clause", oneOf [ref "expression",
    as (ref "lambda_within_for_in_clause") "lambda"]),
  ("expression", oneOf [ref "comparison_operator", ref "not_operator", ref "boolean_operator",
    ref "lambda", ref "primary_expression", ref "conditional_expression", ref "named_expression",
    ref "as_pattern"]),
  ("primary_expression", oneOf [ref "await", ref "binary_operator", ref "identifier",
    ref "keyword_identifier", ref "string", ref "concatenated_string", ref "integer", ref "float",
    ref "true", ref "false", ref "none", ref "unary_operator", ref "attribute", ref "subscript",
    ref "call", ref "list", ref "list_comprehension", ref "dictionary",
    ref "dictionary_comprehension", ref "set", ref "set_comprehension", ref "tuple",
    ref "parenthesized_expression", ref "generator_expression", ref "ellipsis",
    as (ref "list_splat_pattern") "list_splat"]),
  ("not_operator", at_ "not" (all ["not", field "argument" (ref "expression")])),
  ("boolean_operator", oneOf [
    leftAt "and" (all [field "left" (ref "expression"), field "operator" "and",
      field "right" (ref "expression")]),
    leftAt "or" (all [field "left" (ref "expression"), field "operator" "or",
      field "right" (ref "expression")])]),
  ("binary_operator", oneOf [binary .left "+" "plus", binary .left "-" "plus",
    binary .left "*" "times", binary .left "@" "times", binary .left "/" "times",
    binary .left "%" "times", binary .left "//" "times", binary .right "**" "power",
    binary .left "|" "|", binary .left "&" "&", binary .left "^" "^", binary .left "<<" "shift",
    binary .left ">>" "shift"]),
  ("unary_operator", at_ "unary" (all [field "operator" (oneOf ["+", "-", "~"]),
    field "argument" (ref "primary_expression")])),
  ("_not_in", all ["not", "in"]),
  ("_is_not", all ["is", "not"]),
  ("comparison_operator", leftAt "compare" (all [ref "primary_expression", many (all [
    field "operators" (oneOf ["<", "<=", "==", "!=", ">=", ">", "<>", "in",
      asText (ref "_not_in") "not in", "is", asText (ref "_is_not") "is not"]),
    ref "primary_expression"])])),
  ("lambda", at_ "lambda" (all ["lambda", field "parameters" (opt (ref "lambda_parameters")), ":",
    field "body" (ref "expression")])),
  ("lambda_within_for_in_clause", all ["lambda", field "parameters" (opt (ref "lambda_parameters")),
    ":", field "body" (ref "_expression_within_for_in_clause")]),
  ("assignment", all [field "left" (ref "_left_hand_side"), oneOf [
    all ["=", field "right" (ref "_right_hand_side")],
    all [":", field "type" (ref "type")],
    all [":", field "type" (ref "type"), "=", field "right" (ref "_right_hand_side")]]]),
  ("augmented_assignment", all [field "left" (ref "_left_hand_side"),
    field "operator" (oneOf ["+=", "-=", "*=", "/=", "@=", "//=", "%=", "**=", ">>=", "<<=", "&=",
      "^=", "|="]), field "right" (ref "_right_hand_side")]),
  ("_left_hand_side", oneOf [ref "pattern", ref "pattern_list"]),
  ("pattern_list", all [ref "pattern", oneOf [",",
    all [many (all [",", ref "pattern"]), opt ","]]]),
  ("_right_hand_side", oneOf [ref "expression", ref "expression_list", ref "assignment",
    ref "augmented_assignment", ref "pattern_list", ref "yield"]),
  ("yield", right (all ["yield", oneOf [all ["from", ref "expression"], opt (ref "_expressions")]])),
  ("attribute", at_ "call" (all [field "object" (ref "primary_expression"), ".",
    field "attribute" (ref "identifier")])),
  ("subscript", at_ "call" (all [field "value" (ref "primary_expression"), "[",
    commaSep1 (field "subscript" (oneOf [ref "expression", ref "slice"])), opt ",", "]"])),
  ("slice", all [opt (ref "expression"), ":", opt (ref "expression"),
    opt (all [":", opt (ref "expression")])]),
  ("ellipsis", "..."),
  ("call", at_ "call" (all [field "function" (ref "primary_expression"),
    field "arguments" (oneOf [ref "generator_expression", ref "argument_list"])])),
  ("typed_parameter", at_ "typed" (all [oneOf [ref "identifier", ref "list_splat_pattern",
    ref "dictionary_splat_pattern"], ":", field "type" (ref "type")])),
  ("type", oneOf [at1 (ref "expression"), ref "splat_type", ref "generic_type", ref "union_type",
    ref "constrained_type", ref "member_type"]),
  ("splat_type", at1 (all [oneOf ["*", "**"], ref "identifier"])),
  ("generic_type", at1 (all [oneOf [ref "identifier", as "type" "identifier"],
    ref "type_parameter"])),
  ("union_type", left (all [ref "type", "|", ref "type"])),
  ("constrained_type", right (all [ref "type", ":", ref "type"])),
  ("member_type", all [ref "type", ".", ref "identifier"]),
  ("keyword_argument", all [field "name" (oneOf [ref "identifier", ref "keyword_identifier"]), "=",
    field "value" (ref "expression")])]

def literals : List (String × Rule) := [
  ("list", all ["[", opt (ref "_collection_elements"), "]"]),
  ("set", all ["\x7b", ref "_collection_elements", "\x7d"]),
  ("tuple", all ["(", opt (ref "_collection_elements"), ")"]),
  ("dictionary", all ["\x7b", opt (commaSep1 (oneOf [ref "pair", ref "dictionary_splat"])), opt ",",
    "\x7d"]),
  ("pair", all [field "key" (ref "expression"), ":", field "value" (ref "expression")]),
  ("list_comprehension", all ["[", field "body" (ref "expression"), ref "_comprehension_clauses",
    "]"]),
  ("dictionary_comprehension", all ["\x7b", field "body" (ref "pair"),
    ref "_comprehension_clauses", "\x7d"]),
  ("set_comprehension", all ["\x7b", field "body" (ref "expression"), ref "_comprehension_clauses",
    "\x7d"]),
  ("generator_expression", all ["(", field "body" (ref "expression"),
    ref "_comprehension_clauses", ")"]),
  ("_comprehension_clauses", all [ref "for_in_clause",
    star (oneOf [ref "for_in_clause", ref "if_clause"])]),
  ("parenthesized_expression", at_ "parenthesized" (all ["(",
    oneOf [ref "expression", ref "yield"], ")"])),
  ("_collection_elements", all [commaSep1 (oneOf [ref "expression", ref "yield", ref "list_splat",
    ref "parenthesized_list_splat"]), opt ","]),
  ("for_in_clause", left (all [opt "async", "for", field "left" (ref "_left_hand_side"), "in",
    field "right" (commaSep1 (ref "_expression_within_for_in_clause")), opt ","])),
  ("if_clause", all ["if", ref "expression"]),
  ("conditional_expression", rightAt "conditional" (all [ref "expression", "if", ref "expression",
    "else", ref "expression"])),
  ("concatenated_string", all [ref "string", many (ref "string")]),
  ("string", all [ref "string_start", star (oneOf [ref "interpolation", ref "string_content"]),
    ref "string_end"]),
  ("string_content", right (many (oneOf [ref "escape_interpolation", ref "escape_sequence",
    ref "_not_escape_sequence", ref "_string_content"]))),
  ("interpolation", all ["\x7b", field "expression" (ref "_f_expression"), opt "=",
    opt (field "type_conversion" (ref "type_conversion")),
    opt (field "format_specifier" (ref "format_specifier")), "\x7d"]),
  ("_f_expression", oneOf [ref "expression", ref "expression_list", ref "pattern_list",
    ref "yield"])]

open Pattern in
def escape : Pattern :=
  let hex := chars .hexDigit
  all ["\\", oneOf ["u" ++ hex.times 4, "U" ++ hex.times 8, "x" ++ hex.times 2,
    all [chars .digit, opt (chars .digit), opt (chars .digit)], all [opt "\r", "\n"],
    Pattern.set "\x27\"abfrntv\\", all ["N\x7b", plus (notIn "\x7d"), "\x7d"]]]

open Pattern in
def digits : Pattern :=
  plus (all [plus (chars .digit), opt "_"])

open Pattern in
def integer : Pattern :=
  let based (marks : String) (digit : CharSet) : Pattern :=
    all ["0", Pattern.set marks, plus (all [opt "_", plus (chars digit)]), opt (Pattern.set "Ll")]
  oneOf [based "xX" .hexDigit, based "oO" .octalDigit, based "bB" (.range '0' '1'),
    all [digits, oneOf [opt (Pattern.set "Ll"), opt (Pattern.set "jJ")]]]

open Pattern in
def float : Pattern :=
  let exponent := all [Pattern.set "eE", opt (Pattern.set "+-"), digits]
  all [oneOf [all [digits, ".", opt digits, opt exponent],
    all [opt digits, ".", digits, opt exponent], all [digits, exponent]],
    opt (Pattern.set "LljJ")]

def identifier : Pattern :=
  Pattern.chars (.of "_" ++ .identifierStart) ++ Pattern.star (Pattern.chars .identifierContinue)

def tokens : List (String × Rule) := [
  ("escape_sequence", lexeme { body := .pattern escape, immediate := true, level := 1 }),
  ("_not_escape_sequence", immediateText "\\"),
  ("format_specifier", all [":", star (oneOf [
    leveled 1 (Pattern.plus (Pattern.notIn "\x7b\x7d\n")),
    as (ref "interpolation") "format_expression"])]),
  ("type_conversion", pattern ("!" ++ Pattern.chars (.range 'a' 'z'))),
  ("integer", pattern integer),
  ("float", pattern float),
  ("identifier", pattern identifier),
  ("keyword_identifier", oneOf [
    prec (.level (-3)) none (as (oneOf ["print", "exec", "async", "await"]) "identifier"),
    as (oneOf ["type", "match"]) "identifier"]),
  ("true", "True"),
  ("false", "False"),
  ("none", "None"),
  ("await", at_ "unary" (all ["await", ref "primary_expression"])),
  ("comment", pattern ("#" ++ Pattern.star Pattern.dot)),
  ("line_continuation", pattern ("\\" ++ Pattern.oneOf [Pattern.opt "\r" ++ ("\n" : Pattern), "\x00"])),
  ("positional_separator", "/"),
  ("keyword_separator", "*")]

/-- The grammar of Python, with the print and exec statements of its second version. -/
def definition : Definition where
  rules := statements ++ compounds ++ patterns ++ expressions ++ literals ++ tokens
  separators := .blank ++ .of "\ufeff\u2060\u200b"
  extras := ["comment", "line_continuation"]
  externals := [.name "_newline", .name "_indent", .name "_dedent", .name "string_start",
    .name "_string_content", .name "escape_interpolation", .name "string_end", .name "comment",
    .text "]", .text ")", .text "\x7d", .text "except"]
  word := some "identifier"
  inlined := ["_simple_statement", "_compound_statement", "_suite", "_expressions",
    "_left_hand_side", "keyword_identifier"]
  supertypes := ["_simple_statement", "_compound_statement", "expression", "primary_expression",
    "pattern", "parameter"]
  scanner := scan

def grammar : Thunk Grammar :=
  Thunk.mk fun () => definition.compile

end CodeAtlas.Language.Python
