import EnclosingScope.Grammar.Rule

namespace EnclosingScope.Grammar.Python

open Rule

def lambdaLevel : Int := -2
def typedParameterLevel : Int := -1
def conditionalLevel : Int := -1
def parenthesizedLevel : Int := 1
def orLevel : Int := 10
def andLevel : Int := 11
def notLevel : Int := 12
def compareLevel : Int := 13
def bitOrLevel : Int := 14
def bitAndLevel : Int := 15
def xorLevel : Int := 16
def shiftLevel : Int := 17
def plusLevel : Int := 18
def timesLevel : Int := 19
def unaryLevel : Int := 20
def powerLevel : Int := 21
def callLevel : Int := 22

def lbrace : Rule := "\x7b"
def rbrace : Rule := "\x7d"

def binaryOperators : List (String × Int × Side) :=
  [("+", plusLevel, .left), ("-", plusLevel, .left), ("*", timesLevel, .left),
   ("@", timesLevel, .left), ("/", timesLevel, .left), ("%", timesLevel, .left),
   ("//", timesLevel, .left), ("**", powerLevel, .right), ("|", bitOrLevel, .left),
   ("&", bitAndLevel, .left), ("^", xorLevel, .left), ("<<", shiftLevel, .left),
   (">>", shiftLevel, .left)]

def augmentedOperators : List String :=
  ["+=", "-=", "*=", "/=", "@=", "//=", "%=", "**=", ">>=", "<<=", "&=", "^=", "|="]

def statements : List (String × Rule) :=
  [("module", many (ref "_statement")),
   ("_statement", choice [ref "_simple_statements", ref "_compound_statement"]),
   ("_simple_statements",
      seq [sep1 (ref "_simple_statement") ";", optional ";", ref "_newline"]),
   ("_simple_statement", choice
      [ref "future_import_statement", ref "import_statement", ref "import_from_statement",
       ref "print_statement", ref "assert_statement", ref "expression_statement",
       ref "return_statement", ref "delete_statement", ref "raise_statement",
       ref "pass_statement", ref "break_statement", ref "continue_statement",
       ref "global_statement", ref "nonlocal_statement", ref "exec_statement",
       ref "type_alias_statement"]),
   ("import_statement", seq ["import", ref "_import_list"]),
   ("import_prefix", many1 "."),
   ("relative_import", seq [ref "import_prefix", optional (ref "dotted_name")]),
   ("future_import_statement", seq ["from", "__future__", "import",
      choice [ref "_import_list", seq ["(", ref "_import_list", ")"]]]),
   ("import_from_statement", seq ["from",
      choice [ref "relative_import", ref "dotted_name"], "import",
      choice [ref "wildcard_import", ref "_import_list", seq ["(", ref "_import_list", ")"]]]),
   ("_import_list",
      seq [commaSep1 (choice [ref "dotted_name", ref "aliased_import"]), optional ","]),
   ("aliased_import", seq [ref "dotted_name", "as", ref "identifier"]),
   ("wildcard_import", "*"),
   ("print_statement", choice
      [level 1 (seq ["print", ref "chevron", many (seq [",", ref "expression"]), optional ","]),
       level (-3) (dynamic (-1) (seq ["print", commaSep1 (ref "expression"), optional ","]))]),
   ("chevron", seq [">>", ref "expression"]),
   ("assert_statement", seq ["assert", commaSep1 (ref "expression")]),
   ("expression_statement", choice
      [ref "expression", seq [commaSep1 (ref "expression"), optional ","], ref "assignment",
       ref "augmented_assignment", ref "yield"]),
   ("named_expression", seq [ref "_named_expression_lhs", ":=", ref "expression"]),
   ("_named_expression_lhs", choice [ref "identifier", ref "keyword_identifier"]),
   ("return_statement", seq ["return", optional (ref "_expressions")]),
   ("delete_statement", seq ["del", ref "_expressions"]),
   ("_expressions", choice [ref "expression", ref "expression_list"]),
   ("raise_statement", seq ["raise", optional (ref "_expressions"),
      optional (seq ["from", ref "expression"])]),
   ("pass_statement", left 0 "pass"),
   ("break_statement", left 0 "break"),
   ("continue_statement", left 0 "continue"),
   ("_compound_statement", choice
      [ref "if_statement", ref "for_statement", ref "while_statement", ref "try_statement",
       ref "with_statement", ref "function_definition", ref "class_definition",
       ref "decorated_definition", ref "match_statement"]),
   ("if_statement", seq ["if", ref "expression", ":", ref "_suite",
      many (ref "elif_clause"), optional (ref "else_clause")]),
   ("elif_clause", seq ["elif", ref "expression", ":", ref "_suite"]),
   ("else_clause", seq ["else", ":", ref "_suite"]),
   ("match_statement", seq ["match", commaSep1 (ref "expression"), optional ",", ":",
      shownAs (ref "_match_block") "block"]),
   ("_match_block", choice
      [seq [ref "_indent", many (ref "case_clause"), ref "_dedent"], ref "_newline"]),
   ("case_clause", seq ["case", commaSep1 (ref "case_pattern"), optional ",",
      optional (ref "if_clause"), ":", ref "_suite"]),
   ("for_statement", seq [optional "async", "for", ref "_left_hand_side", "in",
      ref "_expressions", ":", ref "_suite", optional (ref "else_clause")]),
   ("while_statement", seq ["while", ref "expression", ":", ref "_suite",
      optional (ref "else_clause")]),
   ("try_statement", seq ["try", ":", ref "_suite", many (ref "except_clause"),
      optional (ref "else_clause"), optional (ref "finally_clause")]),
   ("except_clause", seq ["except", optional "*",
      optional (seq [ref "expression", optional (seq [choice ["as", ","], ref "expression"])]),
      ":", ref "_suite"]),
   ("finally_clause", seq ["finally", ":", ref "_suite"]),
   ("with_statement", seq [optional "async", "with", ref "with_clause", ":", ref "_suite"]),
   ("with_clause", choice
      [seq [commaSep1 (ref "with_item"), optional ","],
       seq ["(", commaSep1 (ref "with_item"), optional ",", ")"]]),
   ("with_item", dynamic 1 (ref "expression")),
   ("function_definition", seq [optional "async", "def", ref "identifier",
      optional (ref "type_parameter"), ref "parameters", optional (seq ["->", ref "type"]), ":",
      ref "_suite"]),
   ("parameters", seq ["(", optional (ref "_parameters"), ")"]),
   ("lambda_parameters", ref "_parameters"),
   ("list_splat", seq ["*", ref "expression"]),
   ("dictionary_splat", seq ["**", ref "expression"]),
   ("global_statement", seq ["global", commaSep1 (ref "identifier")]),
   ("nonlocal_statement", seq ["nonlocal", commaSep1 (ref "identifier")]),
   ("exec_statement", seq ["exec", choice [ref "string", ref "identifier"],
      optional (seq ["in", commaSep1 (ref "expression")])]),
   ("type_alias_statement", dynamic 1 (seq ["type", ref "type", "=", ref "type"])),
   ("class_definition", seq ["class", ref "identifier", optional (ref "type_parameter"),
      optional (ref "argument_list"), ":", ref "_suite"]),
   ("type_parameter", seq ["[", commaSep1 (ref "type"), optional ",", "]"]),
   ("parenthesized_list_splat", level parenthesizedLevel (seq ["(", choice
      [shownAs (ref "parenthesized_list_splat") "parenthesized_expression", ref "list_splat"],
      ")"])),
   ("argument_list", seq ["(", optional (commaSep1 (choice
      [ref "expression", ref "list_splat", ref "dictionary_splat",
       shownAs (ref "parenthesized_list_splat") "parenthesized_expression",
       ref "keyword_argument"])), optional ",", ")"]),
   ("decorated_definition", seq [many1 (ref "decorator"),
      choice [ref "class_definition", ref "function_definition"]]),
   ("decorator", seq ["@", ref "expression", ref "_newline"]),
   ("_suite", choice
      [shownAs (ref "_simple_statements") "block", seq [ref "_indent", ref "block"],
       shownAs (ref "_newline") "block"]),
   ("block", seq [many (ref "_statement"), ref "_dedent"])]

def patterns : List (String × Rule) :=
  [("expression_list", right 0 (seq [ref "expression", choice
      [",", seq [many1 (seq [",", ref "expression"]), optional ","]]])),
   ("dotted_name", level 1 (sep1 (ref "identifier") ".")),
   ("case_pattern", level 1 (choice
      [shownAs (ref "_as_pattern") "as_pattern", ref "keyword_pattern", ref "_simple_pattern"])),
   ("_simple_pattern", level 1 (choice
      [ref "class_pattern", ref "splat_pattern", ref "union_pattern",
       shownAs (ref "_list_pattern") "list_pattern",
       shownAs (ref "_tuple_pattern") "tuple_pattern", ref "dict_pattern", ref "string",
       ref "concatenated_string", ref "true", ref "false", ref "none",
       seq [optional "-", choice [ref "integer", ref "float"]], ref "complex_pattern",
       ref "dotted_name", "_"])),
   ("_as_pattern", seq [ref "case_pattern", "as", ref "identifier"]),
   ("union_pattern", right 0 (seq [ref "_simple_pattern",
      many1 (left 0 (seq ["|", ref "_simple_pattern"]))])),
   ("_list_pattern", seq ["[", optional (seq [commaSep1 (ref "case_pattern"), optional ","]),
      "]"]),
   ("_tuple_pattern", seq ["(", optional (seq [commaSep1 (ref "case_pattern"), optional ","]),
      ")"]),
   ("dict_pattern", seq [lbrace, optional (seq
      [commaSep1 (choice [ref "_key_value_pattern", ref "splat_pattern"]), optional ","]),
      rbrace]),
   ("_key_value_pattern", seq [ref "_simple_pattern", ":", ref "case_pattern"]),
   ("keyword_pattern", seq [ref "identifier", "=", ref "_simple_pattern"]),
   ("splat_pattern", level 1 (seq [choice ["*", "**"], choice [ref "identifier", "_"]])),
   ("class_pattern", seq [ref "dotted_name", "(",
      optional (seq [commaSep1 (ref "case_pattern"), optional ","]), ")"]),
   ("complex_pattern", level 1 (seq [optional "-", choice [ref "integer", ref "float"],
      choice ["+", "-"], choice [ref "integer", ref "float"]])),
   ("_parameters", seq [commaSep1 (ref "parameter"), optional ","]),
   ("_patterns", seq [commaSep1 (ref "pattern"), optional ","]),
   ("parameter", choice
      [ref "identifier", ref "typed_parameter", ref "default_parameter",
       ref "typed_default_parameter", ref "list_splat_pattern", ref "tuple_pattern",
       ref "keyword_separator", ref "positional_separator", ref "dictionary_splat_pattern"]),
   ("pattern", choice
      [ref "identifier", ref "keyword_identifier", ref "subscript", ref "attribute",
       ref "list_splat_pattern", ref "tuple_pattern", ref "list_pattern"]),
   ("tuple_pattern", seq ["(", optional (ref "_patterns"), ")"]),
   ("list_pattern", seq ["[", optional (ref "_patterns"), "]"]),
   ("default_parameter", seq [choice [ref "identifier", ref "tuple_pattern"], "=",
      ref "expression"]),
   ("typed_default_parameter", level typedParameterLevel (seq
      [ref "identifier", ":", ref "type", "=", ref "expression"])),
   ("list_splat_pattern", seq ["*", choice
      [ref "identifier", ref "keyword_identifier", ref "subscript", ref "attribute"]]),
   ("dictionary_splat_pattern", seq ["**", choice
      [ref "identifier", ref "keyword_identifier", ref "subscript", ref "attribute"]])]

def expressions : List (String × Rule) :=
  [("as_pattern", left 0 (seq [ref "expression", "as",
      shownAs (ref "expression") "as_pattern_target"])),
   ("_expression_within_for_in_clause", choice
      [ref "expression", shownAs (ref "lambda_within_for_in_clause") "lambda"]),
   ("expression", choice
      [ref "comparison_operator", ref "not_operator", ref "boolean_operator", ref "lambda",
       ref "primary_expression", ref "conditional_expression", ref "named_expression",
       ref "as_pattern"]),
   ("primary_expression", choice
      [ref "await", ref "binary_operator", ref "identifier", ref "keyword_identifier",
       ref "string", ref "concatenated_string", ref "integer", ref "float", ref "true",
       ref "false", ref "none", ref "unary_operator", ref "attribute", ref "subscript",
       ref "call", ref "list", ref "list_comprehension", ref "dictionary",
       ref "dictionary_comprehension", ref "set", ref "set_comprehension", ref "tuple",
       ref "parenthesized_expression", ref "generator_expression", ref "ellipsis",
       shownAs (ref "list_splat_pattern") "list_splat"]),
   ("not_operator", level notLevel (seq ["not", ref "expression"])),
   ("boolean_operator", choice
      [left andLevel (seq [ref "expression", "and", ref "expression"]),
       left orLevel (seq [ref "expression", "or", ref "expression"])]),
   ("binary_operator", choice (binaryOperators.map fun (operator, level, side) =>
      prec level (some side) (seq [ref "primary_expression", operator,
        ref "primary_expression"]))),
   ("unary_operator", level unaryLevel (seq [choice ["+", "-", "~"],
      ref "primary_expression"])),
   ("_not_in", seq ["not", "in"]),
   ("_is_not", seq ["is", "not"]),
   ("comparison_operator", left compareLevel (seq [ref "primary_expression", many1 (seq
      [choice ["<", "<=", "==", "!=", ">=", ">", "<>", "in",
         writtenAs (ref "_not_in") "not in", "is", writtenAs (ref "_is_not") "is not"],
       ref "primary_expression"])])),
   ("lambda", level lambdaLevel (seq ["lambda", optional (ref "lambda_parameters"), ":",
      ref "expression"])),
   ("lambda_within_for_in_clause", seq ["lambda", optional (ref "lambda_parameters"), ":",
      ref "_expression_within_for_in_clause"]),
   ("assignment", seq [ref "_left_hand_side", choice
      [seq ["=", ref "_right_hand_side"], seq [":", ref "type"],
       seq [":", ref "type", "=", ref "_right_hand_side"]]]),
   ("augmented_assignment", seq [ref "_left_hand_side",
      choice (augmentedOperators.map fun text => Rule.token (.literal text)),
      ref "_right_hand_side"]),
   ("_left_hand_side", choice [ref "pattern", ref "pattern_list"]),
   ("pattern_list", seq [ref "pattern", choice
      [",", seq [many1 (seq [",", ref "pattern"]), optional ","]]]),
   ("_right_hand_side", choice
      [ref "expression", ref "expression_list", ref "assignment", ref "augmented_assignment",
       ref "pattern_list", ref "yield"]),
   ("yield", right 0 (seq ["yield", choice
      [seq ["from", ref "expression"], optional (ref "_expressions")]])),
   ("attribute", level callLevel (seq [ref "primary_expression", ".", ref "identifier"])),
   ("subscript", level callLevel (seq [ref "primary_expression", "[",
      commaSep1 (choice [ref "expression", ref "slice"]), optional ",", "]"])),
   ("slice", seq [optional (ref "expression"), ":", optional (ref "expression"),
      optional (seq [":", optional (ref "expression")])]),
   ("ellipsis", "..."),
   ("call", level callLevel (seq [ref "primary_expression",
      choice [ref "generator_expression", ref "argument_list"]])),
   ("typed_parameter", level typedParameterLevel (seq
      [choice [ref "identifier", ref "list_splat_pattern", ref "dictionary_splat_pattern"], ":",
       ref "type"])),
   ("type", choice
      [level 1 (ref "expression"), ref "splat_type", ref "generic_type", ref "union_type",
       ref "constrained_type", ref "member_type"]),
   ("splat_type", level 1 (seq [choice ["*", "**"], ref "identifier"])),
   ("generic_type", level 1 (seq
      [choice [ref "identifier", shownAs "type" "identifier"], ref "type_parameter"])),
   ("union_type", left 0 (seq [ref "type", "|", ref "type"])),
   ("constrained_type", right 0 (seq [ref "type", ":", ref "type"])),
   ("member_type", seq [ref "type", ".", ref "identifier"]),
   ("keyword_argument", seq [choice [ref "identifier", ref "keyword_identifier"], "=",
      ref "expression"]),
   ("list", seq ["[", optional (ref "_collection_elements"), "]"]),
   ("set", seq [lbrace, ref "_collection_elements", rbrace]),
   ("tuple", seq ["(", optional (ref "_collection_elements"), ")"]),
   ("dictionary", seq [lbrace,
      optional (commaSep1 (choice [ref "pair", ref "dictionary_splat"])), optional ",",
      rbrace]),
   ("pair", seq [ref "expression", ":", ref "expression"]),
   ("list_comprehension", seq ["[", ref "expression", ref "_comprehension_clauses", "]"]),
   ("dictionary_comprehension",
      seq [lbrace, ref "pair", ref "_comprehension_clauses", rbrace]),
   ("set_comprehension", seq [lbrace, ref "expression", ref "_comprehension_clauses", rbrace]),
   ("generator_expression", seq ["(", ref "expression", ref "_comprehension_clauses", ")"]),
   ("_comprehension_clauses", seq [ref "for_in_clause",
      many (choice [ref "for_in_clause", ref "if_clause"])]),
   ("parenthesized_expression", level parenthesizedLevel (seq ["(",
      choice [ref "expression", ref "yield"], ")"])),
   ("_collection_elements", seq [commaSep1 (choice
      [ref "expression", ref "yield", ref "list_splat", ref "parenthesized_list_splat"]),
      optional ","]),
   ("for_in_clause", left 0 (seq [optional "async", "for", ref "_left_hand_side", "in",
      commaSep1 (ref "_expression_within_for_in_clause"), optional ","])),
   ("if_clause", seq ["if", ref "expression"]),
   ("conditional_expression", right conditionalLevel (seq
      [ref "expression", "if", ref "expression", "else", ref "expression"])),
   ("concatenated_string", seq [ref "string", many1 (ref "string")])]

def tokens : List (String × Rule) :=
  [("string", seq [ref "string_start", many (choice [ref "interpolation", ref "string_content"]),
      ref "string_end"]),
   ("string_content", right 0 (many1 (choice
      [ref "escape_interpolation", ref "escape_sequence", ref "_not_escape_sequence",
       ref "_string_content"]))),
   ("interpolation", seq [lbrace, ref "_f_expression", optional "=",
      optional (ref "type_conversion"), optional (ref "format_specifier"), rbrace]),
   ("_f_expression", choice
      [ref "expression", ref "expression_list", ref "pattern_list", ref "yield"]),
   ("escape_sequence", token .escapeSequence),
   ("_not_escape_sequence", token .loneBackslash),
   ("format_specifier", seq [":", many (choice
      [token .formatText, shownAs (ref "interpolation") "format_expression"])]),
   ("type_conversion", token .typeConversion),
   ("integer", token .integer),
   ("float", token .float),
   ("identifier", token .identifier),
   ("keyword_identifier", choice
      [level (-3) (shownAs (choice ["print", "exec", "async", "await"]) "identifier"),
       shownAs (choice ["type", "match"]) "identifier"]),
   ("true", "True"),
   ("false", "False"),
   ("none", "None"),
   ("await", level unaryLevel (seq ["await", ref "primary_expression"])),
   ("comment", token .comment),
   ("line_continuation", token .lineContinuation),
   ("positional_separator", "/"),
   ("keyword_separator", "*")]

def language : Language where
  rules := statements ++ patterns ++ expressions ++ tokens
  extras := ["comment", "line_continuation"]
  layout :=
    [("_newline", .newline), ("_indent", .indent), ("_dedent", .dedent),
     ("string_start", .stringStart), ("_string_content", .stringText),
     ("escape_interpolation", .doubledBrace), ("string_end", .stringEnd)]
  watched := [.comment, .literal "]", .literal ")", .literal "\x7d", .literal "except"]
  inlined := ["_simple_statement", "_compound_statement", "_suite", "_expressions",
    "_left_hand_side", "keyword_identifier"]
  grouping := ["_simple_statement", "_compound_statement", "expression", "primary_expression",
    "pattern", "parameter"]
  reserved := ["False", "None", "True", "and", "as", "assert", "break", "class", "continue",
    "def", "del", "elif", "else", "except", "finally", "for", "from", "global", "if", "import",
    "in", "is", "lambda", "nonlocal", "not", "or", "pass", "raise", "return", "try", "while",
    "with", "yield"]

end EnclosingScope.Grammar.Python
