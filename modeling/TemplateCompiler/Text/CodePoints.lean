/-!
Texts as lists of code points. A string literal can spell a lone surrogate, which `String` cannot hold,
so the values of literals are kept in this form.
-/

namespace TemplateCompiler.Text

/-- A text whose code points may be any number below 0x110000, surrogates included. -/
structure CodePoints where
  codes : List Nat
  deriving DecidableEq, Repr

namespace CodePoints

def ofChars (cs : List Char) : CodePoints := ⟨cs.map Char.toNat⟩

def ofString (s : String) : CodePoints := ofChars s.toList

/-- The text as a `String`; a surrogate is shown as the replacement character. -/
def toString (t : CodePoints) : String :=
  String.ofList (t.codes.map fun code =>
    if code.isValidChar then Char.ofNat code else Char.ofNat 0xfffd)

@[simp] theorem codes_ofString (s : String) : (ofString s).codes = s.toList.map Char.toNat := rfl

theorem ofString_injective {s t : String} (h : ofString s = ofString t) : s = t := by
  have hc : s.toList.map Char.toNat = t.toList.map Char.toNat := congrArg codes h
  exact String.toList_inj.mp ((List.map_inj_right fun _ _ => Char.toNat_inj.mp).mp hc)

end CodePoints

end TemplateCompiler.Text
