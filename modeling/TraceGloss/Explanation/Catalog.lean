import TraceGloss.Explanation.Rule
import TraceGloss.Explanation.Snippet

/-!
# The catalog

All rules, in the order in which they are tried. They are grouped by the
exceptions that they were written for. Where two rules fit one message, the
more particular comes first: a full-width character is explained as such
before it counts as any other invalid character.
-/

namespace TraceGloss.Catalog

set_option autoImplicit false

def quotedName : FormPart := .stretch (.except '\'')

def calledName : FormPart := .stretch (.except '(')

def number : FormPart := .stretch .digit

/-- Full-width characters that are typed for ASCII punctuation and operators. -/
def fullWidthOperators : Text := "（）’”＋－＊／％：＜＞＝！".toList

def invalidSyntax (snippet : Text) : List Slot :=
  if Snippet.forgetsIn snippet then
    ["文法が正しくありません。in を忘れていませんか？"]
  else
    ["文法が正しくありません。入力ミス等が無いか確認してください。"]

def expectedColon (snippet : Text) : List Slot :=
  if Snippet.elseWithCondition snippet then
    ["else の後に条件式を書くことはできません。elif を使うか、あるいは条件式を消す必要があります。"]
  else
    ["コロン「:」を忘れています。"]

def notCallable (snippet : Text) : List Slot :=
  match Snippet.shadowedBuiltin? snippet with
  | some builtin =>
      [.words builtin,
        "関数が上書きされてしまっているため呼び出せません。この行以前で ",
        .words builtin,
        " という名前の変数を使ってしまっていませんか？"]
  | none => [.typeLabel 0 [], "のデータは () を付けて呼び出すことはできません。"]

def invalidInteger (captures : List Text) : List Slot :=
  if captures.head? = some "10".toList then
    ["文字列 '", .captured 1,
      "' は、整数として不正なので int型（整数）に変換することができません。"]
  else
    ["文字列 '", .captured 1, "' は、", .captured 0, "進法の数値として不適切です。"]

def syntaxRules : List Rule :=
  [
    { name := "invalid_syntax".toList
      family := .syntaxError
      trigger := .exact "invalid syntax".toList
      reply := .bySnippet invalidSyntax },
    { name := "never_closed".toList
      family := .syntaxError
      trigger := .form [["'", quotedName, "' was never closed"]]
      reply := .always ["「", .captured 0, "」を閉じ忘れています。"] },
    { name := "unterminated_string".toList
      family := .syntaxError
      trigger := .form
        [["unterminated ", .oneOf ["triple-quoted ".toList, []],
          "string literal (detected at line ", number, ")"]]
      reply := .always
        ["文字列が閉じられていません。クォートを忘れていませんか？（", .captured 0, "行目で検出）"] },
    { name := "eof_in_string".toList
      family := .syntaxError
      trigger := .form
        [["EOF while scanning ", .oneOf ["triple-quoted ".toList, []], "string literal"]]
      reply := .always ["文字列が閉じられていません。クォートを忘れていませんか？"] },
    { name := "expected_colon".toList
      family := .syntaxError
      trigger := .exact "expected ':'".toList
      reply := .bySnippet expectedColon },
    { name := "forgot_comma".toList
      family := .syntaxError
      trigger := .exact "invalid syntax. Perhaps you forgot a comma?".toList
      reply := .always ["文法が正しくありません。コンマ「,」を忘れていませんか？"] },
    { name := "assign_instead_of_compare".toList
      family := .syntaxError
      trigger := .exact
        "invalid syntax. Maybe you meant '==' or ':=' instead of '='?".toList
      reply := .always
        ["文法が正しくありません。「=」ではなく「==」や「:=」ではありませんか？"] },
    { name := "assign_to_expression".toList
      family := .syntaxError
      trigger := .exact
        "cannot assign to expression here. Maybe you meant '==' instead of '='?".toList
      reply := .always
        ["式に代入することはできません。「=」ではなく「==」ではありませんか？"] },
    { name := "assign_to_attribute".toList
      family := .syntaxError
      trigger := .exact
        "cannot assign to attribute here. Maybe you meant '==' instead of '='?".toList
      reply := .always
        ["ここで属性に代入することはできません。「=」ではなく「==」ではありませんか？"] },
    { name := "eol_in_string".toList
      family := .syntaxError
      trigger := .exact "EOL while scanning string literal".toList
      reply := .always
        ["文字列が閉じられていません。クォートを忘れていないか確認してください。"] },
    { name := "unexpected_eof".toList
      family := .syntaxError
      trigger := .exact "unexpected EOF while parsing".toList
      reply := .always ["カッコ等の閉じ忘れをしていないか確認してください。"] },
    { name := "unmatched_bracket".toList
      family := .syntaxError
      trigger := .form [["unmatched '", quotedName, "'"]]
      reply := .always ["対応するカッコの無い「", .captured 0, "」があります。"] },
    { name := "missing_call_parentheses".toList
      family := .syntaxError
      trigger := .form
        [["Missing parentheses in call to '", quotedName, "'. Did you mean ",
          .stretch (.except '?'), "?"]]
      reply := .always
        ["「", .captured 0, "」を呼び出すにはカッコが必要です。例：", .captured 1] },
    { name := "unparenthesized_generator".toList
      family := .syntaxError
      trigger := .exact "Generator expression must be parenthesized".toList
      reply := .always ["ジェネレータ式にはカッコが必要です。"] },
    { name := "comprehension_target".toList
      family := .syntaxError
      trigger := .exact
        "did you forget parentheses around the comprehension target?".toList
      reply := .always ["内包表記のターゲットをカッコで囲むのを忘れていませんか？"] },
    { name := "full_width_space".toList
      family := .syntaxError
      trigger := .exact "invalid non-printable character U+3000".toList
      reply := .always ["全角空白が使われています。半角空白に直してください。"] },
    { name := "full_width_operator".toList
      family := .syntaxError
      trigger := .form
        [["invalid character '", .char (.anyOf fullWidthOperators), "' (",
          .stretch (.except ')'), ")"]]
      reply := .always
        ["全角の ", .captured 0, " が使われています。英語入力状態で書き直してください。"] },
    { name := "invalid_character".toList
      family := .syntaxError
      trigger := .form
        [["invalid character '", .char .inline, "' (", .stretch (.except ')'), ")"]]
      reply := .always ["不正な文字 ", .captured 0, " が使われています。"] },
    { name := "import_from_order".toList
      family := .syntaxError
      trigger := .exact "Did you mean to use 'from ... import ...' instead?".toList
      reply := .always
        ["from ... import ... と書くべきところを、import ... from ... と書いてしまっていませんか？"] },
    { name := "leading_zeros".toList
      family := .syntaxError
      trigger := .exact
        ("leading zeros in decimal integer literals are not permitted; " ++
          "use an 0o prefix for octal integers").toList
      reply := .always ["数値の前に 0 を入れてはいけません。"] },
    { name := "invalid_decimal_literal".toList
      family := .syntaxError
      trigger := .exact "invalid decimal literal".toList
      reply := .always
        ["不正な数値データです。数字から始まる変数名を使っていたりしませんか？"] }
  ]

def indentationRules : List Rule :=
  [
    { name := "unexpected_indent".toList
      family := .indentationError
      trigger := .exact "unexpected indent".toList
      reply := .always ["インデントが入るべきでない場所に入ってしまっています。"] },
    { name := "expected_indented_block".toList
      family := .indentationError
      trigger := .exact "expected an indented block".toList
      reply := .always ["インデントが入るべき場所にありません。"] },
    { name := "unindent_mismatch".toList
      family := .indentationError
      trigger := .exact "unindent does not match any outer indentation level".toList
      reply := .always ["合わせるべきインデントが合っていません。"] },
    { name := "expected_indented_block_after".toList
      family := .indentationError
      trigger := .form
        [["expected an indented block after '", quotedName, "' statement ",
          .oneOf ["o".toList, "i".toList], "n line ", number]]
      reply := .always
        [.captured 1, "行目の ", .captured 0, " の次行（つまり ", .lineNumber,
          "行目）に、インデントがありません。"] },
    { name := "mixed_tabs_and_spaces".toList
      family := .indentationError
      trigger := .exact "inconsistent use of tabs and spaces in indentation".toList
      reply := .always ["インデントにタブとスペースが混在しています。"] }
  ]

def indexRules : List Rule :=
  [
    { name := "list_index".toList
      family := .indexError
      trigger := .exact "list index out of range".toList
      reply := .always
        ["リストの範囲外を参照しようとしています。",
          "リストの大きさと参照しようとした位置を確認してください。"] },
    { name := "tuple_index".toList
      family := .indexError
      trigger := .exact "tuple index out of range".toList
      reply := .always
        ["タプルの範囲外を参照しようとしています。",
          "タプルの大きさと参照しようとした位置を確認してください。"] },
    { name := "string_index".toList
      family := .indexError
      trigger := .exact "string index out of range".toList
      reply := .always
        ["文字列の範囲外を参照しようとしています。",
          "文字列の長さと参照しようとした位置を確認してください。"] }
  ]

/-- Rules for `NameError` and `UnboundLocalError`. -/
def nameRules : List Rule :=
  [
    { name := "undefined_name_suggestion".toList
      family := .nameError
      trigger := .form
        [["name '", quotedName, "' is not defined. Did you mean: '", quotedName, "'?"]]
      reply := .always
        ["「", .captured 0, "」という名前の変数などは見つかりませんでした。「", .captured 1,
          "」の入力ミスではありませんか？"] },
    { name := "undefined_name".toList
      family := .nameError
      trigger := .form [["name '", quotedName, "' is not defined"]]
      reply := .always
        ["「", .captured 0, "」という名前の変数などは見つかりませんでした。",
          "クォーテーションを忘れていたり、スペルミスや大文字小文字の打ち間違いをしていないか確認してください。"] },
    { name := "unbound_local".toList
      family := .unboundLocalError
      trigger := .form
        [["cannot access local variable '", quotedName,
          "' where it is not associated with a value"]]
      reply := .always
        ["関数内でまだ定義されていない「", .captured 0,
          "」という名前のローカル変数が使われています。"] }
  ]

def typeRules : List Rule :=
  [
    { name := "concatenate_str".toList
      family := .typeError
      trigger := .form
        [["can only concatenate str (not \"", .stretch (.except '"'), "\") to str"]]
      reply := .always
        ["文字列に ", .typeLabel 0 "のデータ".toList, "を結合することはできません。"] },
    { name := "unsupported_addition".toList
      family := .typeError
      trigger := .form
        [["unsupported operand type(s) for +: '", quotedName, "' and '", quotedName, "'"]]
      reply := .always
        [.typeLabel 0 [], "に ", .typeLabel 1 "のデータ".toList, "を足すことはできません。"] },
    { name := "missing_arguments".toList
      family := .typeError
      trigger := .form
        [[calledName, "() missing ", number, " required positional argument",
          .oneOf ["s".toList, []], ": ", .stretch .inline]]
      reply := .always
        [.captured 0, "() に必要な引数が ", .captured 1, " 個（", .arguments 2,
          "）足りません。"] },
    { name := "too_many_arguments".toList
      family := .typeError
      trigger := .form
        [[calledName, "() takes ", number, " positional argument", .oneOf ["s".toList, []],
          " but ", number, " ", .oneOf ["were".toList, "was".toList], " given"]]
      reply := .always
        [.captured 0, "() は引数（位置引数）を ", .captured 1, " 個しか受け取りませんが、",
          .captured 2, " 個の引数が与えられています。"] },
    { name := "too_many_arguments_range".toList
      family := .typeError
      trigger := .form
        [[calledName, "() takes from ", number, " to ", number,
          " positional arguments but ", number, " ", .oneOf ["were".toList, "was".toList],
          " given"]]
      reply := .always
        [.captured 0, "() は引数（位置引数）を ", .captured 1, "～", .captured 2,
          " 個しか受け取りませんが、", .captured 3, " 個の引数が与えられています。"] },
    { name := "unexpected_keyword".toList
      family := .typeError
      trigger := .form
        [[calledName, "() got an unexpected keyword argument '", quotedName, "'"]]
      reply := .always
        [.captured 0, "() に '", .captured 1,
          "' という未対応のキーワード引数が与えられています。"] },
    { name := "not_callable".toList
      family := .typeError
      trigger := .form [["'", quotedName, "' object is not callable"]]
      reply := .bySnippet notCallable }
  ]

def valueRules : List Rule :=
  [
    { name := "invalid_int_literal".toList
      family := .valueError
      trigger := .form
        [["invalid literal for int() with base ", number, ": '",
          .anyStretch (.except '\''), "'"]]
      reply := .byCaptures invalidInteger },
    { name := "invalid_float_literal".toList
      family := .valueError
      trigger := .form [["could not convert string to float: '", quotedName, "'"]]
      reply := .always
        ["文字列 '", .captured 0, "' を float 型に変換することはできません。"] }
  ]

def attributeRules : List Rule :=
  [
    { name := "missing_attribute_suggestion".toList
      family := .attributeError
      trigger := .form
        [["'", quotedName, "' object has no attribute '", quotedName, "'. Did you mean: '",
          quotedName, "'?"]]
      reply := .always
        [.typeLabel 0 "のオブジェクト".toList, "には、属性 ", .captured 1,
          " はありません。「", .captured 2, "」のスペルミスではありませんか？"] },
    { name := "missing_attribute".toList
      family := .attributeError
      trigger := .form [["'", quotedName, "' object has no attribute '", quotedName, "'"]]
      reply := .always
        [.typeLabel 0 "のオブジェクト".toList, "には、属性 ", .captured 1, " はありません。",
          "オブジェクトの型は想定通りか、属性名のスペルミスは無いか確認してください。"] }
  ]

def keyRules : List Rule :=
  [
    { name := "missing_key".toList
      family := .keyError
      trigger := .exceptionType "KeyError".toList
      reply := .always
        [.message, " というキーはありません。スペルミス等をしていないか確認してください。"] }
  ]

def importRules : List Rule :=
  [
    { name := "missing_module".toList
      family := .importError
      trigger := .form [["No module named '", quotedName, "'"]]
      reply := .always
        ["モジュール「", .captured 0, "」が見つかりません。",
          "このモジュールがインストールされているか、スペルミスをしていないか確認してください。"] },
    { name := "missing_import_name".toList
      family := .importError
      trigger := .form
        [["cannot import name '", quotedName, "' from '", quotedName, "' (",
          .anyStretch (.except ')'), ")"],
         ["cannot import name '", quotedName, "' from '", quotedName, "'"]]
      reply := .always
        ["モジュール「", .captured 1, "」に、「", .captured 0,
          "」という名前のオブジェクトが見つかりません。スペルミスをしていないか等確認してください。"] }
  ]

def fileRules : List Rule :=
  [
    { name := "missing_file".toList
      family := .fileNotFoundError
      trigger := .form
        [["[Errno ", number, "] No such file or directory: '", quotedName, "'"]]
      reply := .always
        ["ファイル「", .captured 1,
          "」が見つかりません。スペルミス等をしていないか確認してください。"] }
  ]

def divisionRules : List Rule :=
  [
    { name := "division_by_zero".toList
      family := .zeroDivisionError
      trigger := .form
        [[.oneOf ["float ".toList, "integer ".toList, []],
          .oneOf ["division".toList, "modulo".toList, "division or modulo".toList],
          " by zero"]]
      reply := .always
        ["0 で割ることはできません。除数（割る数）が予期せず 0 になっていないか確認してください。"] }
  ]

/-- All rules in the order in which they are tried. -/
def rules : List Rule :=
  syntaxRules ++ indentationRules ++ indexRules ++ nameRules ++ typeRules ++ valueRules ++
    attributeRules ++ keyRules ++ importRules ++ fileRules ++ divisionRules

end TraceGloss.Catalog
