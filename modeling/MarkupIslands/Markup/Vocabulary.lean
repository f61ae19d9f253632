/-!
# Vocabulary of markup

The three sets of names that decide how an element is written: elements without content, elements
whose text is written as it is, and attributes that mean "on" by being there. Element names are
compared exactly, attribute names without regard to ASCII case.
-/

namespace MarkupIslands.Markup

def voidElements : List String :=
  ["area", "base", "br", "col", "embed", "hr", "img", "input", "link", "meta", "param", "source",
    "track", "wbr"]

/-- Elements whose text is written without escapes. -/
def rawTextElements : List String := ["script", "style"]

/-- Attributes whose presence alone means "on". -/
def booleanAttributes : List String :=
  ["allowfullscreen", "async", "autofocus", "autoplay", "checked", "controls", "default", "defer",
    "disabled", "formnovalidate", "hidden", "inert", "ismap", "itemscope", "loop", "multiple",
    "muted", "nomodule", "novalidate", "open", "playsinline", "readonly", "required", "reversed",
    "selected"]

def isVoid (tag : String) : Bool := voidElements.contains tag

def isRawText (tag : String) : Bool := rawTextElements.contains tag

def isBooleanAttribute (name : String) : Bool := booleanAttributes.contains name.toLower

/-- Raw-text elements have content, so none of them is void. -/
theorem isVoid_eq_false_of_isRawText {tag : String} (h : isRawText tag) : isVoid tag = false := by
  simp only [isRawText, rawTextElements, List.contains_cons, List.contains_nil, Bool.or_false,
    Bool.or_eq_true, beq_iff_eq] at h
  rcases h with rfl | rfl <;> decide

end MarkupIslands.Markup
