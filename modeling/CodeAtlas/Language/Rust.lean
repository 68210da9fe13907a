import CodeAtlas.Grammar.Compile
import CodeAtlas.Language.RustScanner

namespace CodeAtlas.Language.Rust

open Rule

def level (n : Int) (r : Rule) : Rule :=
  prec (.level n) none r

def leftAt (n : Int) (r : Rule) : Rule :=
  prec (.level n) (some .left) r

/-- Levels of precedence, tightest first. -/
def levelCall : Int := 15
def levelField : Int := 14
def levelTry : Int := 13
def levelUnary : Int := 12
def levelCast : Int := 11
def levelMultiply : Int := 10
def levelAdd : Int := 9
def levelShift : Int := 8
def levelBitAnd : Int := 7
def levelBitXor : Int := 6
def levelBitOr : Int := 5
def levelCompare : Int := 4
def levelAnd : Int := 3
def levelOr : Int := 2
def levelRange : Int := 1
def levelAssign : Int := 0
def levelClosure : Int := -1

def numericTypes : List String :=
  ["u8", "i8", "u16", "i16", "u32", "i32", "u64", "i64", "u128", "i128", "isize", "usize", "f32",
    "f64"]

def primitiveTypes : List String :=
  numericTypes ++ ["bool", "str", "char"]

def words (texts : List String) : Rule :=
  oneOf (texts.map literal)

def primitiveType : Rule :=
  as (words primitiveTypes) "primitive_type"

/-- The name of a primitive type where a value is meant. -/
def primitiveName : Rule :=
  as (words primitiveTypes) "identifier"

def expr : Rule := ref "_expression"
def type : Rule := ref "_type"
def binding : Rule := ref "_pattern"
def identifier : Rule := ref "identifier"

def visibility : Rule :=
  opt (ref "visibility_modifier")

def typeParameters : Rule :=
  field "type_parameters" (opt (ref "type_parameters"))

def whereClause : Rule :=
  opt (ref "where_clause")

def commaList (r : Rule) : Rule :=
  all [sepBy "," r, opt ","]

def commaList1 (r : Rule) : Rule :=
  all [sepBy1 "," r, opt ","]

def attributes : Rule :=
  star (ref "attribute_item")

/-- The same in each of the three kinds of brackets. -/
def bracketed (r : Rule) : Rule :=
  oneOf [all ["(", r, ")"], all ["[", r, "]"], all ["\x7b", r, "\x7d"]]

def labelled : Rule :=
  opt (all [ref "label", ":"])

def turbofish : Rule :=
  as (ref "generic_type_with_turbofish") "generic_type"

/-- The bracket that opens type arguments, where a comparison could stand as well. -/
def argumentsOpen : Rule :=
  lexeme { body := .literal "<", level := 1 }

def valueOf : Rule :=
  opt (all ["=", field "value" expr])

def resultType : Rule :=
  opt (all ["->", field "return_type" type])

def files : List (String × Rule) := [
  ("source_file", all [opt (ref "shebang"), star (ref "_statement")]),
  ("_statement", oneOf [ref "expression_statement", ref "_declaration_statement"]),
  ("empty_statement", ";"),
  ("expression_statement", oneOf [all [expr, ";"], level 1 (ref "_expression_ending_with_block")]),
  ("_declaration_statement", oneOf (["const_item", "macro_invocation", "macro_definition",
    "empty_statement", "attribute_item", "inner_attribute_item", "mod_item", "foreign_mod_item",
    "struct_item", "union_item", "enum_item", "type_item", "function_item",
    "function_signature_item", "impl_item", "trait_item", "associated_type", "let_declaration",
    "use_declaration", "extern_crate_declaration", "static_item"].map ref))]

/-- What may follow the bracket of a repetition before its sign. -/
def repetitionSeparator : Rule :=
  opt (pattern (Pattern.plus (Pattern.notIn "+*?")))

def punctuation : List String :=
  ["+", "-", "*", "/", "%", "^", "!", "&", "|", "&&", "||", "<<", ">>", "+=", "-=", "*=", "/=",
    "%=", "^=", "&=", "|=", "<<=", ">>=", "=", "==", "!=", ">", "<", ">=", "<=", "@", "_", ".",
    "..", "...", "..=", ",", ";", ":", "::", "->", "=>", "#", "?"]

def looseWords : List String :=
  ["\x27", "as", "async", "await", "break", "const", "continue", "default", "enum", "fn", "for",
    "gen", "if", "impl", "let", "loop", "match", "mod", "pub", "return", "static", "struct",
    "trait", "type", "union", "unsafe", "use", "where", "while"]

def templates : List (String × Rule) :=
  let arms := all [star (all [ref "macro_rule", ";"]), opt (ref "macro_rule")]
  [("macro_definition", all ["macro_rules!",
      field "name" (oneOf [identifier, ref "_reserved_identifier"]),
      oneOf [all ["(", arms, ")", ";"], all ["[", arms, "]", ";"], all ["\x7b", arms, "\x7d"]]]),
  ("macro_rule", all [field "left" (ref "token_tree_pattern"), "=>",
    field "right" (ref "token_tree")]),
  ("_token_pattern", oneOf [ref "token_tree_pattern", ref "token_repetition_pattern",
    ref "token_binding_pattern", ref "metavariable", ref "_non_special_token"]),
  ("token_tree_pattern", bracketed (star (ref "_token_pattern"))),
  ("token_binding_pattern", level 1 (all [field "name" (ref "metavariable"), ":",
    field "type" (ref "fragment_specifier")])),
  ("token_repetition_pattern", all ["$", "(", star (ref "_token_pattern"), ")",
    repetitionSeparator, words ["+", "*", "?"]]),
  ("fragment_specifier", words ["block", "expr", "expr_2021", "ident", "item", "lifetime",
    "literal", "meta", "pat", "pat_param", "path", "stmt", "tt", "ty", "vis"]),
  ("_tokens", oneOf [ref "token_tree", ref "token_repetition", ref "metavariable",
    ref "_non_special_token"]),
  ("token_tree", bracketed (star (ref "_tokens"))),
  ("token_repetition", all ["$", "(", star (ref "_tokens"), ")", repetitionSeparator,
    words ["+", "*", "?"]]),
  ("_non_special_token", oneOf [ref "_literal", identifier, ref "mutable_specifier", ref "self",
    ref "super", ref "crate", primitiveType, right (many (words punctuation)), words looseWords])]

def items : List (String × Rule) := [
  ("attribute_item", all ["#", "[", ref "attribute", "]"]),
  ("inner_attribute_item", all ["#", "!", "[", ref "attribute", "]"]),
  ("attribute", all [ref "_path", opt (oneOf [all ["=", field "value" expr],
    field "arguments" (as (ref "delim_token_tree") "token_tree")])]),
  ("mod_item", all [visibility, "mod", field "name" identifier,
    oneOf [";", field "body" (ref "declaration_list")]]),
  ("foreign_mod_item", all [visibility, ref "extern_modifier",
    oneOf [";", field "body" (ref "declaration_list")]]),
  ("declaration_list", all ["\x7b", star (ref "_declaration_statement"), "\x7d"]),
  ("struct_item", all [visibility, "struct", field "name" (ref "_type_identifier"), typeParameters,
    oneOf [all [whereClause, field "body" (ref "field_declaration_list")],
      all [field "body" (ref "ordered_field_declaration_list"), whereClause, ";"], ";"]]),
  ("union_item", all [visibility, "union", field "name" (ref "_type_identifier"), typeParameters,
    whereClause, field "body" (ref "field_declaration_list")]),
  ("enum_item", all [visibility, "enum", field "name" (ref "_type_identifier"), typeParameters,
    whereClause, field "body" (ref "enum_variant_list")]),
  ("enum_variant_list", all ["\x7b", commaList (all [attributes, ref "enum_variant"]), "\x7d"]),
  ("enum_variant", all [visibility, field "name" identifier,
    field "body" (opt (oneOf [ref "field_declaration_list",
      ref "ordered_field_declaration_list"])), valueOf]),
  ("field_declaration_list", all ["\x7b", commaList (all [attributes, ref "field_declaration"]),
    "\x7d"]),
  ("field_declaration", all [visibility, field "name" (ref "_field_identifier"), ":",
    field "type" type]),
  ("ordered_field_declaration_list", all ["(",
    commaList (all [attributes, visibility, field "type" type]), ")"]),
  ("extern_crate_declaration", all [visibility, "extern", ref "crate", field "name" identifier,
    opt (all ["as", field "alias" identifier]), ";"]),
  ("const_item", all [visibility, "const", field "name" identifier, ":", field "type" type,
    valueOf, ";"]),
  ("static_item", all [visibility, "static", opt "ref", opt (ref "mutable_specifier"),
    field "name" identifier, ":", field "type" type, valueOf, ";"]),
  ("type_item", all [visibility, "type", field "name" (ref "_type_identifier"), typeParameters,
    whereClause, "=", field "type" type, whereClause, ";"]),
  ("function_item", all [visibility, opt (ref "function_modifiers"), "fn",
    field "name" (oneOf [identifier, ref "metavariable"]), typeParameters,
    field "parameters" (ref "parameters"), resultType, whereClause, field "body" (ref "block")]),
  ("function_signature_item", all [visibility, opt (ref "function_modifiers"), "fn",
    field "name" (oneOf [identifier, ref "metavariable"]), typeParameters,
    field "parameters" (ref "parameters"), resultType, whereClause, ";"]),
  ("function_modifiers", many (oneOf ["async", "default", "const", "unsafe",
    ref "extern_modifier"])),
  ("where_clause", right (all ["where", opt (commaList1 (ref "where_predicate"))])),
  ("where_predicate", all [field "left" (oneOf [ref "lifetime", ref "_type_identifier",
      ref "scoped_type_identifier", ref "generic_type", ref "reference_type", ref "pointer_type",
      ref "tuple_type", ref "array_type", ref "higher_ranked_trait_bound", primitiveType]),
    field "bounds" (ref "trait_bounds")]),
  ("impl_item", all [opt "unsafe", "impl", typeParameters,
    opt (all [opt "!", field "trait" (oneOf [ref "_type_identifier", ref "scoped_type_identifier",
      ref "generic_type"]), "for"]),
    field "type" type, whereClause, oneOf [field "body" (ref "declaration_list"), ";"]]),
  ("trait_item", all [visibility, opt "unsafe", "trait", field "name" (ref "_type_identifier"),
    typeParameters, field "bounds" (opt (ref "trait_bounds")), whereClause,
    field "body" (ref "declaration_list")]),
  ("associated_type", all ["type", field "name" (ref "_type_identifier"), typeParameters,
    field "bounds" (opt (ref "trait_bounds")), whereClause, ";"]),
  ("trait_bounds", all [":", sepBy1 "+" (oneOf [type, ref "lifetime",
    ref "higher_ranked_trait_bound"])]),
  ("higher_ranked_trait_bound", all ["for", field "type_parameters" (ref "type_parameters"),
    field "type" type]),
  ("removed_trait_bound", all ["?", type]),
  ("type_parameters", level 1 (all ["<", commaList1 (all [attributes, oneOf [ref "metavariable",
    ref "type_parameter", ref "lifetime_parameter", ref "const_parameter"]]), ">"])),
  ("const_parameter", all ["const", field "name" identifier, ":", field "type" type,
    opt (all ["=", field "value" (oneOf [ref "block", identifier, ref "_literal",
      ref "negative_literal"])])]),
  ("type_parameter", level 1 (all [field "name" (ref "_type_identifier"),
    opt (field "bounds" (ref "trait_bounds")), opt (all ["=", field "default_type" type])])),
  ("lifetime_parameter", level 1 (all [field "name" (ref "lifetime"),
    opt (field "bounds" (ref "trait_bounds"))])),
  ("let_declaration", all ["let", opt (ref "mutable_specifier"), field "pattern" binding,
    opt (all [":", field "type" type]), valueOf,
    opt (all ["else", field "alternative" (ref "block")]), ";"]),
  ("use_declaration", all [visibility, "use", field "argument" (ref "_use_clause"), ";"]),
  ("_use_clause", oneOf [ref "_path", ref "use_as_clause", ref "use_list", ref "scoped_use_list",
    ref "use_wildcard"]),
  ("scoped_use_list", all [field "path" (opt (ref "_path")), "::",
    field "list" (ref "use_list")]),
  ("use_list", all ["\x7b", commaList (ref "_use_clause"), "\x7d"]),
  ("use_as_clause", all [field "path" (ref "_path"), "as", field "alias" identifier]),
  ("use_wildcard", all [opt (all [opt (ref "_path"), "::"]), "*"]),
  ("parameters", all ["(", commaList (all [opt (ref "attribute_item"), oneOf [ref "parameter",
    ref "self_parameter", ref "variadic_parameter", "_", type]]), ")"]),
  ("self_parameter", all [opt "&", opt (ref "lifetime"), opt (ref "mutable_specifier"),
    ref "self"]),
  ("variadic_parameter", all [opt (ref "mutable_specifier"),
    opt (all [field "pattern" binding, ":"]), "..."]),
  ("parameter", all [opt (ref "mutable_specifier"),
    field "pattern" (oneOf [binding, ref "self"]), ":", field "type" type]),
  ("extern_modifier", all ["extern", opt (ref "string_literal")]),
  ("visibility_modifier", oneOf [ref "crate", all ["pub", opt (all ["(",
    oneOf [ref "self", ref "super", ref "crate", all ["in", ref "_path"]], ")"])]])]

def types : List (String × Rule) := [
  ("_type", oneOf [ref "abstract_type", ref "reference_type", ref "metavariable",
    ref "pointer_type", ref "generic_type", ref "scoped_type_identifier", ref "tuple_type",
    ref "unit_type", ref "array_type", ref "function_type", ref "_type_identifier",
    ref "macro_invocation", ref "never_type", ref "dynamic_type", ref "bounded_type",
    ref "removed_trait_bound", primitiveType]),
  ("bracketed_type", all ["<", oneOf [type, ref "qualified_type"], ">"]),
  ("qualified_type", all [field "type" type, "as", field "alias" type]),
  ("lifetime", level 1 (all ["\x27", identifier])),
  ("array_type", all ["[", field "element" type, opt (all [";", field "length" expr]), "]"]),
  ("for_lifetimes", all ["for", "<", commaList1 (ref "lifetime"), ">"]),
  ("function_type", all [opt (ref "for_lifetimes"),
    level levelCall (all [
      oneOf [field "trait" (oneOf [ref "_type_identifier", ref "scoped_type_identifier"]),
        all [opt (ref "function_modifiers"), "fn"]],
      field "parameters" (ref "parameters")]), resultType]),
  ("tuple_type", all ["(", commaList1 type, ")"]),
  ("unit_type", all ["(", ")"]),
  ("generic_function", level 1 (all [field "function" (oneOf [identifier, ref "scoped_identifier",
    ref "field_expression"]), "::", field "type_arguments" (ref "type_arguments")])),
  ("generic_type", level 1 (all [field "type" (oneOf [ref "_type_identifier",
    ref "_reserved_identifier", ref "scoped_type_identifier"]),
    field "type_arguments" (ref "type_arguments")])),
  ("generic_type_with_turbofish", all [field "type" (oneOf [ref "_type_identifier",
    ref "scoped_identifier"]), "::", field "type_arguments" (ref "type_arguments")]),
  ("bounded_type", leftAt (-1) (all [oneOf [ref "lifetime", type, ref "use_bounds"], "+",
    oneOf [ref "lifetime", type, ref "use_bounds"]])),
  ("use_bounds", all ["use", argumentsOpen,
    commaList (oneOf [ref "lifetime", ref "_type_identifier"]), ">"]),
  ("type_arguments", all [argumentsOpen, commaList1 (all [oneOf [type, ref "type_binding",
    ref "lifetime", ref "_literal", ref "block"], opt (ref "trait_bounds")]), ">"]),
  ("type_binding", all [field "name" (ref "_type_identifier"),
    field "type_arguments" (opt (ref "type_arguments")), "=", field "type" type]),
  ("reference_type", all ["&", opt (ref "lifetime"), opt (ref "mutable_specifier"),
    field "type" type]),
  ("pointer_type", all ["*", oneOf ["const", ref "mutable_specifier"], field "type" type]),
  ("never_type", "!"),
  ("abstract_type", all ["impl", opt (all ["for", ref "type_parameters"]),
    field "trait" (level 1 (oneOf [ref "_type_identifier", ref "scoped_type_identifier",
      ref "removed_trait_bound", ref "generic_type", ref "function_type", ref "tuple_type",
      ref "bounded_type"]))]),
  ("dynamic_type", all ["dyn", field "trait" (oneOf [ref "higher_ranked_trait_bound",
    ref "_type_identifier", ref "scoped_type_identifier", ref "generic_type",
    ref "function_type", ref "tuple_type"])]),
  ("mutable_specifier", "mut")]

def binary (n : Int) (operators : List String) : Rule :=
  leftAt n (all [field "left" expr, field "operator" (words operators), field "right" expr])

def expressions : List (String × Rule) := [
  ("_expression_except_range", oneOf [ref "unary_expression", ref "reference_expression",
    ref "try_expression", ref "binary_expression", ref "assignment_expression",
    ref "compound_assignment_expr", ref "type_cast_expression", ref "call_expression",
    ref "return_expression", ref "yield_expression", ref "_literal", left identifier,
    primitiveName, left (ref "_reserved_identifier"), ref "self", ref "scoped_identifier",
    ref "generic_function", ref "await_expression", ref "field_expression",
    ref "array_expression", ref "tuple_expression", level 1 (ref "macro_invocation"),
    ref "unit_expression", ref "break_expression", ref "continue_expression",
    ref "index_expression", ref "metavariable", ref "closure_expression",
    ref "parenthesized_expression", ref "struct_expression",
    ref "_expression_ending_with_block"]),
  ("_expression", oneOf [ref "_expression_except_range", ref "range_expression"]),
  ("_expression_ending_with_block", oneOf (["unsafe_block", "async_block", "gen_block",
    "try_block", "const_block", "block", "if_expression", "match_expression", "while_expression",
    "loop_expression", "for_expression"].map ref)),
  ("macro_invocation", all [field "macro" (oneOf [ref "scoped_identifier", identifier,
    ref "_reserved_identifier"]), "!", as (ref "delim_token_tree") "token_tree"]),
  ("delim_token_tree", bracketed (star (ref "_delim_tokens"))),
  ("_delim_tokens", oneOf [ref "_non_delim_token", as (ref "delim_token_tree") "token_tree"]),
  ("_non_delim_token", oneOf [ref "_non_special_token", "$"]),
  ("scoped_identifier", all [
    field "path" (opt (oneOf [ref "_path", ref "bracketed_type", turbofish])), "::",
    field "name" (oneOf [identifier, ref "super"])]),
  ("scoped_type_identifier_in_expression_position", level (-2) (all [
    field "path" (opt (oneOf [ref "_path", turbofish])), "::",
    field "name" (ref "_type_identifier")])),
  ("scoped_type_identifier", all [
    field "path" (opt (oneOf [ref "_path", turbofish, ref "bracketed_type", ref "generic_type"])),
    "::", field "name" (ref "_type_identifier")]),
  ("range_expression", leftAt levelRange (oneOf [
    all [expr, words ["..", "...", "..="], expr], all [expr, ".."], all ["..", expr], ".."])),
  ("unary_expression", level levelUnary (all [words ["-", "*", "!"], expr])),
  ("try_expression", level levelTry (all [expr, "?"])),
  ("reference_expression", level levelUnary (all ["&",
    oneOf [all ["raw", oneOf ["const", ref "mutable_specifier"]], opt (ref "mutable_specifier")],
    field "value" expr])),
  ("binary_expression", oneOf [binary levelAnd ["&&"], binary levelOr ["||"],
    binary levelBitAnd ["&"], binary levelBitOr ["|"], binary levelBitXor ["^"],
    binary levelCompare ["==", "!=", "<", "<=", ">", ">="], binary levelShift ["<<", ">>"],
    binary levelAdd ["+", "-"], binary levelMultiply ["*", "/", "%"]]),
  ("assignment_expression", leftAt levelAssign (all [field "left" expr, "=",
    field "right" expr])),
  ("compound_assignment_expr", binary levelAssign ["+=", "-=", "*=", "/=", "%=", "&=", "|=", "^=",
    "<<=", ">>="]),
  ("type_cast_expression", leftAt levelCast (all [field "value" expr, "as",
    field "type" type])),
  ("return_expression", oneOf [left (all ["return", expr]), level (-1) "return"]),
  ("yield_expression", oneOf [left (all ["yield", expr]), level (-1) "yield"]),
  ("call_expression", level levelCall (all [
    field "function" (ref "_expression_except_range"), field "arguments" (ref "arguments")])),
  ("arguments", all ["(", commaList (all [attributes, expr]), ")"]),
  ("array_expression", all ["[", attributes,
    oneOf [all [expr, ";", field "length" expr], commaList (all [attributes, expr])], "]"]),
  ("parenthesized_expression", all ["(", expr, ")"]),
  ("tuple_expression", all ["(", attributes, expr, ",", star (all [expr, ","]), opt expr, ")"]),
  ("unit_expression", all ["(", ")"]),
  ("struct_expression", all [field "name" (oneOf [ref "_type_identifier",
      as (ref "scoped_type_identifier_in_expression_position") "scoped_type_identifier",
      ref "generic_type_with_turbofish"]), field "body" (ref "field_initializer_list")]),
  ("field_initializer_list", all ["\x7b", commaList (oneOf [ref "shorthand_field_initializer",
    ref "field_initializer", ref "base_field_initializer"]), "\x7d"]),
  ("shorthand_field_initializer", all [attributes, identifier]),
  ("field_initializer", all [attributes,
    field "field" (oneOf [ref "_field_identifier", ref "integer_literal"]), ":",
    field "value" expr]),
  ("base_field_initializer", all ["..", expr]),
  ("if_expression", right (all ["if", field "condition" (ref "_condition"),
    field "consequence" (ref "block"), opt (field "alternative" (ref "else_clause"))])),
  ("let_condition", all ["let", field "pattern" binding, "=",
    field "value" (leftAt levelAnd expr)]),
  ("_let_chain", leftAt levelAnd (oneOf [
    all [ref "_let_chain", "&&", ref "let_condition"], all [ref "_let_chain", "&&", expr],
    all [ref "let_condition", "&&", expr], all [ref "let_condition", "&&", ref "let_condition"],
    all [expr, "&&", ref "let_condition"]])),
  ("_condition", oneOf [expr, ref "let_condition", as (ref "_let_chain") "let_chain"]),
  ("else_clause", all ["else", oneOf [ref "block", ref "if_expression"]])]

def armAttributes : Rule :=
  star (oneOf [ref "attribute_item", ref "inner_attribute_item"])

def blocks : List (String × Rule) := [
  ("match_expression", all ["match", field "value" expr, field "body" (ref "match_block")]),
  ("match_block", all ["\x7b", opt (all [star (ref "match_arm"),
    as (ref "last_match_arm") "match_arm"]), "\x7d"]),
  ("match_arm", right (all [armAttributes, field "pattern" (ref "match_pattern"), "=>",
    oneOf [all [field "value" expr, ","],
      field "value" (level 1 (ref "_expression_ending_with_block"))]])),
  ("last_match_arm", all [armAttributes, field "pattern" (ref "match_pattern"), "=>",
    field "value" expr, opt ","]),
  ("match_pattern", all [binding, opt (all ["if", field "condition" (ref "_condition")])]),
  ("while_expression", all [labelled, "while", field "condition" (ref "_condition"),
    field "body" (ref "block")]),
  ("loop_expression", all [labelled, "loop", field "body" (ref "block")]),
  ("for_expression", all [labelled, "for", field "pattern" binding, "in", field "value" expr,
    field "body" (ref "block")]),
  ("const_block", all ["const", field "body" (ref "block")]),
  ("closure_expression", level levelClosure (all [opt "static", opt "async", opt "move",
    field "parameters" (ref "closure_parameters"),
    oneOf [all [resultType, field "body" (ref "block")], field "body" (oneOf [expr, "_"])]])),
  ("closure_parameters", all ["|", sepBy "," (oneOf [binding, ref "parameter"]), "|"]),
  ("label", all ["\x27", identifier]),
  ("break_expression", left (all ["break", opt (ref "label"), opt expr])),
  ("continue_expression", left (all ["continue", opt (ref "label")])),
  ("index_expression", level levelCall (all [expr, "[", expr, "]"])),
  ("await_expression", level levelField (all [expr, ".", "await"])),
  ("field_expression", level levelField (all [field "value" expr, ".",
    field "field" (oneOf [ref "_field_identifier", ref "integer_literal"])])),
  ("unsafe_block", all ["unsafe", ref "block"]),
  ("async_block", all ["async", opt "move", ref "block"]),
  ("gen_block", all ["gen", opt "move", ref "block"]),
  ("try_block", all ["try", ref "block"]),
  ("block", all [labelled, "\x7b", star (ref "_statement"), opt expr, "\x7d"])]

def rangeEnd : Rule :=
  oneOf [ref "_literal_pattern", ref "_path"]

def patterns : List (String × Rule) := [
  ("_pattern", oneOf [ref "_literal_pattern", primitiveName, identifier, ref "scoped_identifier",
    ref "generic_pattern", ref "tuple_pattern", ref "tuple_struct_pattern", ref "struct_pattern",
    ref "_reserved_identifier", ref "ref_pattern", ref "slice_pattern", ref "captured_pattern",
    ref "reference_pattern", ref "remaining_field_pattern", ref "mut_pattern",
    ref "range_pattern", ref "or_pattern", ref "const_block", ref "macro_invocation", "_"]),
  ("generic_pattern", all [oneOf [identifier, ref "scoped_identifier"], "::",
    field "type_arguments" (ref "type_arguments")]),
  ("tuple_pattern", all ["(", commaList (oneOf [binding, ref "closure_expression"]), ")"]),
  ("slice_pattern", all ["[", commaList binding, "]"]),
  ("tuple_struct_pattern", all [
    field "type" (oneOf [identifier, ref "scoped_identifier", turbofish]), "(",
    commaList binding, ")"]),
  ("struct_pattern", all [
    field "type" (oneOf [ref "_type_identifier", ref "scoped_type_identifier"]), "\x7b",
    commaList (oneOf [ref "field_pattern", ref "remaining_field_pattern"]), "\x7d"]),
  ("field_pattern", all [opt "ref", opt (ref "mutable_specifier"),
    oneOf [field "name" (as identifier "shorthand_field_identifier"),
      all [field "name" (oneOf [ref "_field_identifier", ref "integer_literal"]), ":",
        field "pattern" binding]]]),
  ("remaining_field_pattern", ".."),
  ("mut_pattern", level (-1) (all [ref "mutable_specifier", binding])),
  ("range_pattern", oneOf [
    all [field "left" rangeEnd,
      oneOf [all [words ["...", "..=", ".."], field "right" rangeEnd], ".."]],
    all [words ["..=", ".."], field "right" rangeEnd]]),
  ("ref_pattern", all ["ref", binding]),
  ("captured_pattern", all [identifier, "@", binding]),
  ("reference_pattern", all ["&", opt (ref "mutable_specifier"), binding]),
  ("or_pattern", leftAt (-2) (oneOf [all [binding, "|", binding], all ["|", binding]]))]

open Pattern in
def escape : Pattern :=
  let hex := chars .hexDigit
  all ["\\", oneOf [notIn "xu", "u" ++ hex.times 4, all ["u\x7b", plus hex, "\x7d"],
    "x" ++ hex.times 2]]

open Pattern in
def integer : Pattern :=
  let digits (set : CharSet) := plus (chars (set ++ .of "_"))
  all [oneOf [all [chars .digit, star (chars (.digit ++ .of "_"))], "0x" ++ digits .hexDigit,
    "0b" ++ digits (.range '0' '1'), "0o" ++ digits .octalDigit],
    opt (oneOf (numericTypes.map text))]

open Pattern in
def character : Pattern :=
  all [opt "b", "\x27", opt (oneOf [escape, notIn "\\\x27"]), "\x27"]

def marker (text : String) : Rule :=
  lexeme { body := .literal text, immediate := true, level := 2 }

def literals : List (String × Rule) := [
  ("_literal", oneOf (["string_literal", "raw_string_literal", "char_literal", "boolean_literal",
    "integer_literal", "float_literal"].map ref)),
  ("_literal_pattern", oneOf (["string_literal", "raw_string_literal", "char_literal",
    "boolean_literal", "integer_literal", "float_literal", "negative_literal"].map ref)),
  ("negative_literal", all ["-", oneOf [ref "integer_literal", ref "float_literal"]]),
  ("integer_literal", pattern integer),
  ("string_literal", all [asText (pattern (Pattern.opt (Pattern.set "bc") ++ "\x22")) "\x22",
    star (oneOf [ref "escape_sequence", ref "string_content"]), immediateText "\x22"]),
  ("raw_string_literal", all [ref "_raw_string_literal_start",
    as (ref "raw_string_literal_content") "string_content", ref "_raw_string_literal_end"]),
  ("char_literal", pattern character),
  ("escape_sequence", immediate escape),
  ("boolean_literal", words ["true", "false"]),
  ("line_comment", all ["//", oneOf [
    all [lexeme { body := .pattern "//", immediate := true, level := 2 },
      pattern (Pattern.star Pattern.dot)],
    all [ref "_line_doc_comment_marker", field "doc" (as (ref "_line_doc_content") "doc_comment")],
    lexeme { body := .pattern (Pattern.star Pattern.dot), immediate := true, level := 1 }]]),
  ("_line_doc_comment_marker", oneOf [
    field "outer" (as (ref "_outer_line_doc_comment_marker") "outer_doc_comment_marker"),
    field "inner" (as (ref "_inner_line_doc_comment_marker") "inner_doc_comment_marker")]),
  ("_inner_line_doc_comment_marker", marker "!"),
  ("_outer_line_doc_comment_marker", marker "/"),
  ("block_comment", all ["/*", opt (oneOf [
    all [ref "_block_doc_comment_marker",
      opt (field "doc" (as (ref "_block_comment_content") "doc_comment"))],
    ref "_block_comment_content"]), "*/"]),
  ("_block_doc_comment_marker", oneOf [
    field "outer" (as (ref "_outer_block_doc_comment_marker") "outer_doc_comment_marker"),
    field "inner" (as (ref "_inner_block_doc_comment_marker") "inner_doc_comment_marker")]),
  ("_path", oneOf [ref "self", primitiveName, ref "metavariable", ref "super", ref "crate",
    identifier, ref "scoped_identifier", ref "_reserved_identifier"]),
  ("identifier", pattern (Pattern.opt "r#" ++ Pattern.chars (.identifierStart ++ .of "_")
    ++ Pattern.star (.chars (.identifierContinue ++ .of "_")))),
  ("shebang", pattern (("#!" : Pattern) ++ Pattern.star (Pattern.set "\r\x0c\t\x0b ")
    ++ Pattern.opt (Pattern.notIn "[\n" ++ Pattern.star Pattern.dot) ++ "\n")),
  ("_reserved_identifier", as (words ["default", "union", "gen", "raw"]) "identifier"),
  ("_type_identifier", as identifier "type_identifier"),
  ("_field_identifier", as identifier "field_identifier"),
  ("self", "self"),
  ("super", "super"),
  ("crate", "crate"),
  ("metavariable", pattern (("$" : Pattern) ++ Pattern.chars (.letter ++ .of "_")
    ++ Pattern.star (.chars (.letter ++ .digit ++ .of "_"))))]

def externals : List External :=
  ["string_content", "_raw_string_literal_start", "raw_string_literal_content",
    "_raw_string_literal_end", "float_literal", "_outer_block_doc_comment_marker",
    "_inner_block_doc_comment_marker", "_block_comment_content", "_line_doc_content",
    "_error_sentinel"].map .name

def definition : Definition where
  rules := files ++ templates ++ items ++ types ++ expressions ++ blocks ++ patterns ++ literals
  separators := .blank
  extras := ["line_comment", "block_comment"]
  externals
  word := some "identifier"
  inlined := ["_path", "_type_identifier", "_tokens", "_field_identifier", "_non_special_token",
    "_declaration_statement", "_reserved_identifier", "_expression_ending_with_block"]
  supertypes := ["_expression", "_type", "_literal", "_literal_pattern", "_declaration_statement",
    "_pattern"]
  scanner := scan

def grammar : Thunk Grammar :=
  Thunk.mk fun () => definition.compile

end CodeAtlas.Language.Rust
