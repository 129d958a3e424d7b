/-
This file says what may stand between the quotes of a string and which text that
denotes. A byte has several forms there, and the forms of the bytes of a text, one
after another, are what the scanner takes for that text: a backslash takes the
byte after it, whatever that is, so no form is ever cut in two, and the first
quote that belongs to no form is the end.
-/

import Scriptling.Proofs.Token.Scanning

namespace Scriptling

/-! ### Forms of a byte -/

namespace Byte

/-- How a byte may be written between quotes: as itself, unless that ends the string or escapes what
follows, after a backslash, unless that denotes another byte, or as the letter of such an escape. -/
inductive Form (quote : UInt8) : UInt8 → Bytes → Prop
  | itself {byte : UInt8} : byte ≠ quote → byte ≠ backslash → Form quote byte [byte]
  | escaped {byte : UInt8} : byte ≠ 0x6e → byte ≠ 0x74 → byte ≠ 0x72 →
    Form quote byte [backslash, byte]
  | newline : Form quote newline [backslash, 0x6e]
  | tab : Form quote tab [backslash, 0x74]
  | carriageReturn : Form quote carriageReturn [backslash, 0x72]

/-- What stands between quotes spells a text, byte by byte. -/
inductive Spells (quote : UInt8) : Bytes → Bytes → Prop
  | nil : Spells quote [] []
  | cons {byte : UInt8} {form content text : Bytes} : Form quote byte form →
    Spells quote content text → Spells quote (form ++ content) (byte :: text)

/-- After a backslash any byte may stand, and the two are a form of what it denotes. -/
theorem form_unescape (quote escaped : UInt8) :
    Form quote (Lexeme.unescape escaped) [backslash, escaped] := by
  unfold Lexeme.unescape
  split
  next same => exact same ▸ .newline
  split
  next same => exact same ▸ .tab
  split
  next same => exact same ▸ .carriageReturn
  next notN notT notR => exact .escaped notN notT notR

/-- A byte that is a letter of no escape can always be written. -/
theorem exists_form {quote : UInt8} (quoted : quote = Byte.quote ∨ quote = doubleQuote)
    (byte : UInt8) : ∃ form, Form quote byte form := by
  by_cases special : byte = quote ∨ byte = backslash
  · refine ⟨[backslash, byte], .escaped ?_ ?_ ?_⟩ <;> rintro rfl <;>
      rcases quoted with rfl | rfl <;> exact absurd special (by decide)
  · obtain ⟨notQuote, notBackslash⟩ := not_or.mp special
    exact ⟨[byte], .itself notQuote notBackslash⟩

/-- Every text is spelled between quotes of either kind. -/
theorem exists_spells {quote : UInt8} (quoted : quote = Byte.quote ∨ quote = doubleQuote)
    (text : Bytes) : ∃ content, Spells quote content text := by
  induction text with
  | nil => exact ⟨[], .nil⟩
  | cons byte text hypothesis =>
    obtain ⟨form, written⟩ := exists_form quoted byte
    obtain ⟨content, spells⟩ := hypothesis
    exact ⟨form ++ content, .cons written spells⟩

end Byte

/-! ### Scanning -/

namespace Lexeme

section

variable (quote : UInt8) (rest contents : Bytes) (length : Nat)

theorem ofString_quote : ofString quote (quote :: rest) contents length =
    ⟨.string, contents.reverse, 0, true, length + 1⟩ := by
  rw [ofString.eq_def]
  exact if_pos rfl

theorem ofString_backslash (escaped : UInt8) (other : Byte.backslash ≠ quote) :
    ofString quote (Byte.backslash :: escaped :: rest) contents length =
      ofString quote rest (unescape escaped :: contents) (length + 2) := by
  rw [ofString.eq_def]
  dsimp only
  rw [if_neg other, if_pos rfl]

theorem ofString_plain {byte : UInt8} (notQuote : byte ≠ quote) (plain : byte ≠ Byte.backslash) :
    ofString quote (byte :: rest) contents length =
      ofString quote rest (byte :: contents) (length + 1) := by
  rw [ofString.eq_def]
  dsimp only
  rw [if_neg notQuote, if_neg plain]

/-- A form is scanned as its byte. -/
theorem ofString_form {byte : UInt8} {form : Bytes} (other : Byte.backslash ≠ quote)
    (written : Byte.Form quote byte form) : ofString quote (form ++ rest) contents length =
      ofString quote rest (byte :: contents) (length + form.length) := by
  cases written with
  | itself notQuote plain => exact ofString_plain _ _ _ _ notQuote plain
  | escaped notN notT notR =>
    have same : unescape byte = byte := by
      unfold unescape
      rw [if_neg notN, if_neg notT, if_neg notR]
    have scanned := ofString_backslash quote rest contents length byte other
    rw [same] at scanned
    exact scanned
  | newline => exact ofString_backslash quote rest contents length 0x6e other
  | tab => exact ofString_backslash quote rest contents length 0x74 other
  | carriageReturn => exact ofString_backslash quote rest contents length 0x72 other

end

/-- What spells a text is scanned as that text, up to the closing quote. -/
theorem ofString_spells {quote : UInt8} {content text : Bytes} (other : Byte.backslash ≠ quote)
    (spells : Byte.Spells quote content text) (rest contents : Bytes) (length : Nat) :
    ofString quote (content ++ quote :: rest) contents length =
      ⟨.string, contents.reverse ++ text, 0, true, length + (content.length + 1)⟩ := by
  induction spells generalizing contents length with
  | nil =>
    rw [List.nil_append, ofString_quote, List.append_nil]
    rfl
  | @cons byte form content text written _ hypothesis =>
    have total : length + form.length + (content.length + 1) =
        length + ((form ++ content).length + 1) := by
      rw [List.length_append]
      omega
    rw [List.append_assoc, ofString_form _ _ _ _ other written, hypothesis, total,
      List.reverse_cons, List.append_assoc]
    rfl

/-- A string that is closed has taken what spells its text and the quote after that. -/
theorem spells_of_closed (quote : UInt8) (rest contents : Bytes) (length : Nat)
    (closed : (ofString quote rest contents length).closed = true) :
    ∃ content text left, Byte.Spells quote content text ∧ rest = content ++ quote :: left ∧
      ofString quote rest contents length =
        ⟨.string, contents.reverse ++ text, 0, true, length + (content.length + 1)⟩ := by
  fun_induction ofString quote rest contents length with
  | case1 => cases closed
  | case2 rest contents length =>
    exact ⟨[], [], rest, .nil, rfl, by rw [List.append_nil]; rfl⟩
  | case3 => cases closed
  | case4 contents length escaped rest other hypothesis =>
    obtain ⟨content, text, left, spells, rfl, scanned⟩ := hypothesis closed
    refine ⟨Byte.backslash :: escaped :: content, unescape escaped :: text, left,
      .cons (Byte.form_unescape quote escaped) spells, rfl, ?_⟩
    have total : length + 2 + (content.length + 1) = length + (content.length + 2 + 1) := by omega
    rw [scanned, total, List.reverse_cons, List.append_assoc]
    rfl
  | case5 byte rest contents length notQuote plain hypothesis =>
    obtain ⟨content, text, left, spells, rfl, scanned⟩ := hypothesis closed
    refine ⟨byte :: content, byte :: text, left, .cons (.itself notQuote plain) spells, rfl, ?_⟩
    have total : length + 1 + (content.length + 1) = length + (content.length + 1 + 1) := by omega
    rw [scanned, total, List.reverse_cons, List.append_assoc]
    rfl

end Lexeme

end Scriptling
