import RouteWeaver.Proofs.Unescaping

namespace RouteWeaver.Text

/-- The passes, one after the other, come to one walk over the text that writes for each character
what the pass for it has, and the character itself where there is none. Of all orders of the passes,
those that begin with backslashes come to it. -/
structure EscapesInOnePass (escape : String → String) (passes : List Escape.Pass) : Prop where
  sequential : ∀ s, (escape s).toList = Escape.runAll passes s.toList
  single : ∀ s, (escape s).toList = s.toList.flatMap (Escape.shownBy passes)
  append : ∀ s t, escape (s ++ t) = escape s ++ escape t
  injective : Function.Injective escape
  ordered : ∀ order, order.Perm passes →
    ((∀ s, (escape s).toList = Escape.runAll order s.toList) ↔
      order.head? = some (Escape.marking '\\' '\\'))

variable {escape : String → String} {passes : List Escape.Pass}

theorem EscapesInOnePass.of_led (led : Escape.Led (Escape.marking '\\' '\\') passes)
    (sequential : ∀ s, (escape s).toList = Escape.runAll passes s.toList)
    (settled : Escape.Settled passes) (undone : Function.LeftInverse unescape escape) :
    EscapesInOnePass escape passes := by
  have single (s : String) : (escape s).toList = s.toList.flatMap (Escape.shownBy passes) := by
    rw [sequential, Escape.runAll_eq_flatMap settled]
  refine ⟨sequential, single, ?_, undone.injective, ?_⟩
  · intro s t
    apply String.toList_inj.mp
    rw [single, String.toList_append, List.flatMap_append, String.toList_append, single, single]
  · intro order same
    rw [← led.agrees_iff same]
    constructor
    · intro agree text
      rw [← String.toList_ofList (l := text), ← agree, single]
    · intro agree s
      rw [agree, single]

/-- Both ways of escaping go character by character. So they turn texts that are put together into
escaped texts that are put together, and tell any two texts apart. -/
theorem escaping_is_one_pass :
    EscapesInOnePass escapeLiteral Escape.literalPasses ∧
      EscapesInOnePass escapeText Escape.linePasses := by
  constructor
  · refine .of_led Escape.led_literalPasses ?_ Escape.settled_literalPasses unescape_escapeLiteral
    intro s
    rw [escapeLiteral, String.toList_ofList, Escape.literal_eq_runAll]
  · refine .of_led Escape.led_linePasses ?_ Escape.settled_linePasses unescape_escapeText
    intro s
    rw [escapeText, String.toList_ofList, Escape.line_eq_runAll]

/-- Where quotes go first, the backslash in front of one is doubled. -/
example : Escape.runAll Escape.literalPasses.reverse ['"'] = ['\\', '\\', '"'] := by decide

end RouteWeaver.Text
