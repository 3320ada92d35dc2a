import TraceGloss.Text.Basic

/-!
# Labels

Japanese names for the built-in exception types and data types. A name that is
in no table is shown as it is, in a generic wrapper, so every name has a
label. The raw name always stays part of the label: the reader can search for
it.
-/

namespace TraceGloss.Label

set_option autoImplicit false

def exceptionNames : List (Text × Text) :=
  [
    ("SyntaxError".toList, "文法エラー".toList),
    ("IndentationError".toList, "インデントのエラー".toList),
    ("TabError".toList, "タブとスペースの混在エラー".toList),
    ("NameError".toList, "名前に関するエラー".toList),
    ("UnboundLocalError".toList, "未定義のローカル変数エラー".toList),
    ("AttributeError".toList, "属性に関するエラー".toList),
    ("ModuleNotFoundError".toList, "モジュールエラー".toList),
    ("ImportError".toList, "インポートエラー".toList),
    ("IndexError".toList, "インデクス範囲外エラー".toList),
    ("KeyError".toList, "キーに関するエラー".toList),
    ("ValueError".toList, "値に関するエラー".toList),
    ("ZeroDivisionError".toList, "0除算エラー".toList),
    ("TypeError".toList, "型に関するエラー".toList),
    ("FileNotFoundError".toList, "ファイルが見つからないエラー".toList)
  ]

def typeNames : List (Text × Text) :=
  [
    ("str".toList, "文字列".toList),
    ("int".toList, "整数".toList),
    ("float".toList, "数値".toList),
    ("list".toList, "リスト".toList),
    ("tuple".toList, "タプル".toList),
    ("dict".toList, "辞書".toList),
    ("set".toList, "集合".toList),
    ("bool".toList, "真偽値".toList),
    ("NoneType".toList, "None".toList)
  ]

def exception (exceptionType : Text) : Text :=
  let name := (exceptionNames.lookup exceptionType).getD "エラー".toList
  "【".toList ++ name ++ "(".toList ++ exceptionType ++ ")】".toList

/-- The label of a data type. The noun in `suffix` follows a type that has no
Japanese name. -/
def dataType (name suffix : Text) : Text :=
  match typeNames.lookup name with
  | some known => known ++ " (".toList ++ name ++ ")".toList
  | none => name ++ suffix

end TraceGloss.Label
