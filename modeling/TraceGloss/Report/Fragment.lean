import TraceGloss.Text.Html

/-!
# Fragments

The transcript of a failed run is made of fragments. Each has a kind, which a
page shows as a style, and a text, which is kept as it is and escaped only
when it is written.
-/

namespace TraceGloss

set_option autoImplicit false

inductive FragmentKind where
  | rawError
  /-- The note that the text above is what to search for. -/
  | caution
  | errorType
  /-- The sentence that names the file and the line. -/
  | location
  | snippet
  | message
  deriving DecidableEq, Repr

namespace FragmentKind

/-- All kinds, in the order of a full transcript. -/
def all : List FragmentKind :=
  [rawError, caution, errorType, location, snippet, message]

def name : FragmentKind → Text
  | rawError => "original_error".toList
  | caution => "caution".toList
  | errorType => "error_type".toList
  | location => "location".toList
  | snippet => "snippet".toList
  | message => "message".toList

def cssClass : FragmentKind → Text
  | snippet => "script".toList
  | message => "error_message".toList
  | kind => kind.name

end FragmentKind

structure Fragment where
  kind : FragmentKind
  text : Text
  deriving DecidableEq, Repr

def Fragment.html (fragment : Fragment) : Text :=
  "<span class=\"".toList ++ fragment.kind.cssClass ++ "\">".toList ++
    Text.html fragment.text ++ "</span>".toList

end TraceGloss
