/-
This file proves that blanks and comments do not change the tokens of a source.
Blanks may be written wherever no token stands, and a comment there as well when
a newline or the end of the source comes next: the tokens are the same ones, only
that they stand elsewhere.

A token that ends before the place is read as it was, for the byte that now
follows it either is the one that did or opens a gap, and both end the token. A
token that begins after the place has a longer gap before it, and from its first
byte on the source is what it was.
-/

import Scriptling.Proofs.Token.Tiling

namespace Scriptling

/-! ### Gaps -/

/-- A gap begins with a blank or is a comment. -/
theorem IsGap.cases {byte : UInt8} {between after : Bytes} (gap : IsGap (byte :: between) after) :
    Byte.isBlank byte = true ∧ IsGap between after ∨
      byte = Byte.hash ∧ Byte.newline ∉ between ∧
        (after = [] ∨ after.head? = some Byte.newline) := by
  obtain ⟨blanks, comment, whole, blank, ends⟩ := gap
  cases blanks with
  | cons first blanks =>
    obtain ⟨rfl, rfl⟩ := List.cons.inj whole
    obtain ⟨first, others⟩ := List.forall_mem_cons.mp blank
    exact .inl ⟨first, blanks, comment, rfl, others, ends⟩
  | nil =>
    rw [List.nil_append] at whole
    subst whole
    obtain ⟨hash, line, stops⟩ := ends.resolve_left (List.cons_ne_nil _ _)
    exact .inr ⟨Option.some.inj hash, fun member => line (List.mem_cons_of_mem _ member), stops⟩

theorem IsGap.blank {byte : UInt8} {between after : Bytes} (blank : Byte.isBlank byte = true)
    (gap : IsGap between after) : IsGap (byte :: between) after := by
  obtain ⟨blanks, comment, rfl, others, ends⟩ := gap
  exact ⟨byte :: blanks, comment, rfl, List.forall_mem_cons.mpr ⟨blank, others⟩, ends⟩

theorem isGap_comment {line after : Bytes} (inside : Byte.newline ∉ line)
    (ends : after = [] ∨ after.head? = some Byte.newline) : IsGap (Byte.hash :: line) after :=
  ⟨[], Byte.hash :: line, rfl, List.forall_mem_nil _,
    .inr ⟨rfl, List.not_mem_cons_of_ne_of_not_mem (by decide) inside, ends⟩⟩

theorem ne_newline_of_isBlank {byte : UInt8} (blank : Byte.isBlank byte = true) :
    byte ≠ Byte.newline :=
  Byte.ne_newline_of blank (by decide)

/-- Of what comes after a gap only the first byte matters. -/
theorem IsGap.change {byte : UInt8} {between rest : Bytes} (gap : IsGap between (byte :: rest))
    (others : Bytes) : IsGap between (byte :: others) := by
  obtain ⟨blanks, comment, whole, blank, ends⟩ := gap
  refine ⟨blanks, comment, whole, blank, ends.imp id fun line => ?_⟩
  exact ⟨line.1, line.2.1, .inr (line.2.2.resolve_left (List.cons_ne_nil _ _))⟩

/-- A gap stays on its line. -/
theorem IsGap.newline {between after : Bytes} (gap : IsGap between after) :
    Byte.newline ∉ between := by
  induction between with
  | nil => exact List.not_mem_nil
  | cons byte between hypothesis =>
    rcases gap.cases with ⟨blank, rest⟩ | ⟨rfl, line, -⟩
    · exact List.not_mem_cons_of_ne_of_not_mem (ne_newline_of_isBlank blank).symm (hypothesis rest)
    · exact List.not_mem_cons_of_ne_of_not_mem (by decide) line

/-- A gap is as long as it can be when a solid byte comes after it. -/
theorem IsGap.gap_append {between after : Bytes} (stands : IsGap between after)
    (solid : ∀ byte ∈ after.head?, Byte.IsSolid byte) : gap (between ++ after) = between := by
  induction between with
  | nil =>
    cases after with
    | nil => rfl
    | cons byte rest => exact gap_solid (solid byte rfl) rest
  | cons byte between hypothesis =>
    rcases stands.cases with ⟨blank, rest⟩ | ⟨rfl, line, ends⟩
    · rw [List.cons_append, gap_blank blank, hypothesis rest]
    · have others : ∀ byte ∈ between, (byte != Byte.newline) = true :=
        fun byte member => bne_iff_ne.mpr fun same => line (same ▸ member)
      have stops : after.takeWhile (· != Byte.newline) = [] := by
        rcases ends with rfl | first
        · rfl
        · obtain ⟨rest, rfl⟩ := List.head?_eq_some_iff.mp first
          rfl
      show [] ++ Byte.hash :: (between ++ after).takeWhile (· != Byte.newline) = _
      rw [List.takeWhile_append_of_pos others, stops, List.append_nil, List.nil_append]

/-- Bytes that may be written between two tokens without changing any: blanks, and where the line
ends after them also a comment. -/
def Spaces (extra : Bytes) (lineEnds : Prop) : Prop :=
  (∀ byte ∈ extra, Byte.isBlank byte = true) ∨
    lineEnds ∧ extra.head? = some Byte.hash ∧ Byte.newline ∉ extra

namespace Spaces

variable {extra : Bytes} {lineEnds : Prop}

theorem imp {other : Prop} (spaces : Spaces extra lineEnds) (follows : lineEnds → other) :
    Spaces extra other :=
  Or.imp id (And.imp_left follows) spaces

theorem newline (spaces : Spaces extra lineEnds) : Byte.newline ∉ extra := by
  rcases spaces with blank | ⟨-, -, line⟩
  · exact fun member => ne_newline_of_isBlank (blank _ member) rfl
  · exact line

/-- They begin with no solid byte. -/
theorem head (spaces : Spaces extra lineEnds) : ∀ byte ∈ extra.head?, ¬Byte.IsSolid byte := by
  intro byte first solid
  rcases spaces with blank | ⟨-, hash, -⟩
  · exact absurd (blank byte (List.mem_of_mem_head? first)) (Bool.eq_false_iff.mp solid.1)
  · exact solid.2 (Option.some.inj (first.symm.trans hash))

end Spaces

/-- More may be written at the head of a gap. -/
theorem IsGap.prepend {extra between after : Bytes} (gap : IsGap between after)
    (spaces : Spaces extra (after = [] ∨ after.head? = some Byte.newline)) :
    IsGap (extra ++ between) after := by
  rcases spaces with blank | ⟨ends, hash, line⟩
  · induction extra with
    | nil => exact gap
    | cons byte extra hypothesis =>
      obtain ⟨first, others⟩ := List.forall_mem_cons.mp blank
      exact (hypothesis others).blank first
  · obtain ⟨others, rfl⟩ := List.head?_eq_some_iff.mp hash
    refine isGap_comment (fun member => ?_) ends
    rcases List.mem_append.mp member with inside | inside
    · exact line (List.mem_cons_of_mem _ inside)
    · exact gap.newline inside

/-- More may be written anywhere in a gap. Inside a comment it belongs to the comment. -/
theorem IsGap.insert {before extra between after : Bytes} (gap : IsGap (before ++ between) after)
    (spaces : Spaces extra (after = [] ∨ after.head? = some Byte.newline)) :
    IsGap (before ++ (extra ++ between)) after := by
  induction before with
  | nil => exact gap.prepend spaces
  | cons byte before hypothesis =>
    rcases gap.cases with ⟨blank, rest⟩ | ⟨rfl, line, ends⟩
    · exact (hypothesis rest).blank blank
    · refine isGap_comment (fun member => ?_) ends
      rcases List.mem_append.mp member with inside | later
      · exact line (List.mem_append_left _ inside)
      · rcases List.mem_append.mp later with inside | inside
        · exact spaces.newline inside
        · exact line (List.mem_append_right _ inside)

/-! ### Tokens and where they stand -/

namespace Lexeme

theorem length_ofString_le (quote : UInt8) (rest contents : Bytes) (length : Nat) :
    (ofString quote rest contents length).length ≤ length + rest.length := by
  fun_induction ofString quote rest contents length with
  | case1 => exact Nat.le_refl _
  | case2 => exact Nat.add_le_add_left (Nat.succ_pos _) _
  | case3 => exact Nat.le_refl _
  | case4 _ _ _ _ _ hypothesis =>
    refine Nat.le_trans hypothesis (Nat.le_of_eq ?_)
    rw [List.length_cons, List.length_cons]
    omega
  | case5 _ _ _ _ _ _ hypothesis =>
    refine Nat.le_trans hypothesis (Nat.le_of_eq ?_)
    rw [List.length_cons]
    omega

/-- No token takes more than there is. -/
theorem length_read_le (first : UInt8) (rest : Bytes) :
    (read first rest).length ≤ (first :: rest).length := by
  have run (test : UInt8 → Bool) :
      (first :: rest.takeWhile test).length ≤ (first :: rest).length :=
    Nat.succ_le_succ (List.takeWhile_prefix test).length_le
  have one : 1 ≤ (first :: rest).length := Nat.succ_pos _
  have opens := readBy_read first rest
  generalize read first rest = lexeme at opens ⊢
  cases opens with
  | newline => exact one
  | name => exact run _
  | number => exact run _
  | string =>
    rw [List.length_cons, Nat.add_comm]
    exact length_ofString_le _ _ _ _
  | @symbol kind _ spelled =>
    have length : (ascii kind.spelling).length = kind.spelling.length := List.length_map _
    exact length ▸ spelled.length_le
  | unknown => exact one

/-- A place after a token cuts what is left behind it. -/
theorem split_after {between rest first second : Bytes} {byte : UInt8}
    (whole : between ++ byte :: rest = first ++ second)
    (after : between.length + (read byte rest).length ≤ first.length) :
    ∃ later, first = between ++ (byte :: rest).take (read byte rest).length ++ later ∧
      first.length = between.length + (read byte rest).length + later.length ∧
      rest.drop ((read byte rest).length - 1) = later ++ second := by
  have own : (between ++ (byte :: rest).take (read byte rest).length).length =
      between.length + (read byte rest).length := by
    rw [List.length_append, List.length_take_of_le (length_read_le byte rest)]
  have split : (between ++ (byte :: rest).take (read byte rest).length) ++
      rest.drop ((read byte rest).length - 1) = first ++ second := by
    rw [List.append_assoc, take_append_drop, whole]
  obtain ⟨later, rfl⟩ := List.prefix_of_prefix_length_le ⟨_, split⟩ ⟨second, rfl⟩
    (own ▸ after)
  rw [List.append_assoc _ later] at split
  exact ⟨later, rfl, by rw [List.length_append, own], List.append_cancel_left split⟩

/-- A token is read as it was when spaces stand after it, at once or further on. -/
theorem read_insert {byte : UInt8} {rest later extra second : Bytes} {lineEnds : Prop}
    (closed : (read byte rest).closed = true) (spaces : Spaces extra lineEnds)
    (left : rest.drop ((read byte rest).length - 1) = later ++ second) :
    read byte (rest.take ((read byte rest).length - 1) ++ (later ++ (extra ++ second))) =
        read byte rest ∧
      (rest.take ((read byte rest).length - 1) ++ (later ++ (extra ++ second))).drop
        ((read byte rest).length - 1) = later ++ (extra ++ second) := by
  have parts : Parts (later ++ (extra ++ second)) (rest.drop ((read byte rest).length - 1)) := by
    rw [left]
    cases later with
    | cons => exact .inl rfl
    | nil =>
      cases extra with
      | nil => exact .inl rfl
      | cons => exact .inr spaces.head
  have length : (rest.take ((read byte rest).length - 1)).length = (read byte rest).length - 1 :=
    List.length_take_of_le (Nat.sub_le_of_le_add (length_read_le byte rest))
  exact ⟨read_append byte (.inl closed) parts, List.drop_left' length⟩

end Lexeme

/-- A token without its place. -/
def Token.unplaced (token : Token) : Token :=
  { token with span := ⟨0, 0, 0, 0⟩ }

namespace Tokens

/-- Tokens without their places. -/
def unplaced (tokens : Tokens) : Tokens :=
  ⟨tokens.words.map Token.unplaced, tokens.finish.unplaced⟩

/-- The first token that starts at an offset or after it. -/
def next (tokens : Tokens) (offset : Nat) : Token :=
  (tokens.words.find? fun token => offset ≤ token.span.start).getD tokens.finish

theorem next_of_le {token : Token} {offset : Nat} (le : offset ≤ token.span.start)
    (words : List Token) (finish : Token) : next ⟨token :: words, finish⟩ offset = token := by
  unfold next
  exact congrArg (Option.getD · finish) (List.find?_cons_of_pos (decide_eq_true le))

theorem next_of_lt {token : Token} {offset : Nat} (lt : token.span.start < offset)
    (words : List Token) (finish : Token) :
    next ⟨token :: words, finish⟩ offset = next ⟨words, finish⟩ offset := by
  have none : ¬decide (offset ≤ token.span.start) = true := by
    rw [decide_eq_true_eq]
    exact Nat.not_le_of_lt lt
  unfold next
  exact congrArg (Option.getD · finish) (List.find?_cons_of_neg none)

/-- No word goes on over an offset. -/
def PartAt (tokens : Tokens) (offset : Nat) : Prop :=
  ∀ token ∈ tokens.words, token.span.stop ≤ offset ∨ offset ≤ token.span.start

/-- Wherever a source stands, its tokens are the same ones. -/
theorem Cuts.unplaced_eq {position place : Position} {source : Bytes} {first second : Tokens}
    (one : Cuts position source first) (other : Cuts place source second) :
    first.unplaced = second.unplaced := by
  induction one generalizing place second with
  | ended nothing =>
    cases other with
    | ended => rfl
    | token found => cases nothing.symm.trans found
  | token found _ _ hypothesis =>
    cases other with
    | ended nothing => cases nothing.symm.trans found
    | token foundOther _ cuts =>
      cases found.symm.trans foundOther
      obtain ⟨words, finish⟩ := Tokens.mk.inj (hypothesis cuts)
      exact congrArg₂ Tokens.mk (congrArg (_ :: ·) words) finish

/-- A source that is nothing but a gap has no words. -/
theorem Cuts.of_gap {position : Position} {between : Bytes} {tokens : Tokens}
    (cuts : Cuts position between tokens) (stands : IsGap between []) :
    ∃ place, tokens = ⟨[], finishAt place⟩ := by
  have own := stands.gap_append nofun
  rw [List.append_nil] at own
  cases cuts with
  | ended => exact ⟨_, rfl⟩
  | token found =>
    rw [own, List.drop_length] at found
    cases found

/-- After a gap the token is read that its first byte opens, and then what is left. -/
theorem Cuts.of_token {position : Position} {between rest : Bytes} {byte : UInt8} {tokens : Tokens}
    (cuts : Cuts position (between ++ byte :: rest) tokens) (stands : IsGap between (byte :: rest))
    (solid : Byte.IsSolid byte) :
    ∃ first last words finish,
      tokens = ⟨(Lexeme.read byte rest).token first last :: words, finish⟩ ∧
        Cuts last (rest.drop ((Lexeme.read byte rest).length - 1)) ⟨words, finish⟩ := by
  have own := stands.gap_append fun _ first => Option.some.inj first ▸ solid
  have left : (between ++ byte :: rest).drop (gap (between ++ byte :: rest)).length =
      byte :: rest := by
    rw [own, List.drop_left]
  cases cuts with
  | ended nothing => cases left.symm.trans nothing
  | token found stops cuts =>
    cases left.symm.trans found
    exact ⟨_, _, _, _, rfl, cuts⟩

/-- Induction along the cutting of a source, in which every token stands after its gap. -/
theorem Cuts.byGaps {motive : Position → Bytes → Tokens → Prop}
    (ended : ∀ position between, IsGap between [] →
      motive position between ⟨[], finishAt (position.advance between)⟩)
    (word : ∀ position last between byte rest tokens, IsGap between (byte :: rest) →
      Byte.IsSolid byte →
        last.offset = position.offset + between.length + (Lexeme.read byte rest).length →
          Cuts last (rest.drop ((Lexeme.read byte rest).length - 1)) tokens →
            motive last (rest.drop ((Lexeme.read byte rest).length - 1)) tokens →
              motive position (between ++ byte :: rest)
                ⟨(Lexeme.read byte rest).token (position.advance between) last :: tokens.words,
                  tokens.finish⟩)
    {position : Position} {source : Bytes} {tokens : Tokens} (cuts : Cuts position source tokens) :
    motive position source tokens := by
  induction cuts with
  | @ended position source nothing =>
    have whole := gap_append_drop source
    have gapped := (isGap_gap source).1
    rw [nothing, List.append_nil] at whole
    rw [nothing, whole] at gapped
    rw [whole]
    exact ended position source gapped
  | @token position last source rest byte tokens found stops cuts hypothesis =>
    have whole := gap_append_drop source
    obtain ⟨gapped, solid⟩ := isGap_gap source
    rw [found] at whole gapped solid
    have stop : last.offset =
        position.offset + (gap source).length + (Lexeme.read byte rest).length := by
      rw [stops, Position.offset_advance, Position.offset_advance,
        List.length_take_of_le (Lexeme.length_read_le byte rest)]
    generalize gap source = between at *
    subst whole
    exact word position last between byte rest tokens gapped (solid byte rfl) stop cuts hypothesis

/-- Spaces before a token leave it and what comes after it as they are. -/
theorem Cuts.insert_before {place position last : Position} {first later extra rest : Bytes}
    {byte : UInt8} {tokens others : Tokens} (gapped : IsGap (first ++ later) (byte :: rest))
    (solid : Byte.IsSolid byte)
    (cuts : Cuts last (rest.drop ((Lexeme.read byte rest).length - 1)) tokens)
    (spaces : Spaces extra ((Lexeme.read byte rest).kind = .newline ∨
      (Lexeme.read byte rest).kind = .endOfInput))
    (again : Cuts place (first ++ (extra ++ (later ++ byte :: rest))) others) :
    others.unplaced = (Tokens.mk ((Lexeme.read byte rest).token position last :: tokens.words)
      tokens.finish).unplaced := by
  have lineEnds : (Lexeme.read byte rest).kind = .newline ∨
      (Lexeme.read byte rest).kind = .endOfInput →
        byte :: rest = [] ∨ (byte :: rest).head? = some Byte.newline := by
    rintro (newline | finish)
    · refine .inr (congrArg some (Classical.byContradiction fun other => ?_))
      exact (Lexeme.kind_read_of_ne other rest).1 newline
    · exact absurd finish (Lexeme.kind_read byte rest)
  rw [← List.append_assoc extra, ← List.append_assoc] at again
  obtain ⟨_, _, words, finish, rfl, cutsAgain⟩ :=
    again.of_token (gapped.insert (spaces.imp lineEnds)) solid
  obtain ⟨wordsSame, finishSame⟩ := Tokens.mk.inj (cutsAgain.unplaced_eq cuts)
  exact congrArg₂ Tokens.mk (congrArg (_ :: ·) wordsSame) finishSame

/-- Spaces after a token leave it as it is, and what is left of the source has them in it. -/
theorem Cuts.insert_after {place : Position} {between later extra second rest : Bytes}
    {byte : UInt8} {others : Tokens} {lineEnds : Prop} (gapped : IsGap between (byte :: rest))
    (solid : Byte.IsSolid byte) (closed : (Lexeme.read byte rest).closed = true)
    (spaces : Spaces extra lineEnds)
    (left : rest.drop ((Lexeme.read byte rest).length - 1) = later ++ second)
    (again : Cuts place (between ++ (byte :: rest).take (Lexeme.read byte rest).length ++ later ++
      (extra ++ second)) others) :
    ∃ first last words finish,
      others = ⟨(Lexeme.read byte rest).token first last :: words, finish⟩ ∧
        Cuts last (later ++ (extra ++ second)) ⟨words, finish⟩ := by
  obtain ⟨reads, drops⟩ := Lexeme.read_insert closed spaces left
  obtain ⟨more, succ⟩ := Nat.exists_eq_add_one_of_ne_zero
    (Nat.ne_of_gt (Lexeme.length_read_pos byte rest))
  have whole : between ++ (byte :: rest).take (Lexeme.read byte rest).length ++ later ++
      (extra ++ second) = between ++ byte ::
        (rest.take ((Lexeme.read byte rest).length - 1) ++ (later ++ (extra ++ second))) := by
    rw [succ, List.take_succ_cons, Nat.add_sub_cancel]
    simp only [List.append_assoc, List.cons_append]
  rw [whole] at again
  obtain ⟨first, last, words, finish, same, cuts⟩ := again.of_token (gapped.change _) solid
  rw [reads] at same
  rw [reads, drops] at cuts
  exact ⟨first, last, words, finish, same, cuts⟩

/-- Spaces at a place where no word goes on leave the tokens as they are. -/
theorem Cuts.insert {position : Position} {source : Bytes} {tokens : Tokens}
    (cuts : Cuts position source tokens) (closed : ∀ token ∈ tokens.words, token.closed = true)
    {first extra second : Bytes} (whole : source = first ++ second)
    (parts : tokens.PartAt (position.offset + first.length))
    (spaces : Spaces extra ((tokens.next (position.offset + first.length)).kind = .newline ∨
      (tokens.next (position.offset + first.length)).kind = .endOfInput))
    {place : Position} {others : Tokens} (again : Cuts place (first ++ (extra ++ second)) others) :
    others.unplaced = tokens.unplaced := by
  revert closed first place others
  refine Cuts.byGaps (motive := fun position source tokens =>
    (∀ token ∈ tokens.words, token.closed = true) → ∀ {first : Bytes}, source = first ++ second →
      tokens.PartAt (position.offset + first.length) →
        Spaces extra ((tokens.next (position.offset + first.length)).kind = .newline ∨
          (tokens.next (position.offset + first.length)).kind = .endOfInput) →
            ∀ {place : Position} {others : Tokens}, Cuts place (first ++ (extra ++ second)) others →
              others.unplaced = tokens.unplaced) ?_ ?_ cuts
  · rintro position between gapped - first rfl - spaces place others again
    obtain ⟨_, rfl⟩ := again.of_gap (gapped.insert (spaces.imp fun _ => .inl rfl))
    rfl
  intro position last between byte rest tokens gapped solid stop cuts hypothesis closed first whole
    parts spaces place others again
  obtain ⟨closed, closedLater⟩ := List.forall_mem_cons.mp closed
  obtain ⟨part, partsLater⟩ := List.forall_mem_cons.mp parts
  have start : ((Lexeme.read byte rest).token (position.advance between) last).span.start =
      position.offset + between.length := Position.offset_advance _ _
  rcases part with after | before
  · -- The token is read as it was, and the place is in what is left.
    have after : last.offset ≤ position.offset + first.length := after
    have positive := Lexeme.length_read_pos byte rest
    obtain ⟨later, rfl, length, left⟩ := Lexeme.split_after whole (by omega)
    have offset : position.offset +
        (between ++ (byte :: rest).take (Lexeme.read byte rest).length ++ later).length =
          last.offset + later.length := by
      omega
    rw [offset] at spaces partsLater
    rw [next_of_lt (by omega)] at spaces
    obtain ⟨_, _, words, finish, rfl, cutsAgain⟩ :=
      again.insert_after gapped solid closed spaces left
    obtain ⟨wordsSame, finishSame⟩ :=
      Tokens.mk.inj (hypothesis closedLater left partsLater spaces cutsAgain)
    exact congrArg₂ Tokens.mk (congrArg (_ :: ·) wordsSame) finishSame
  · -- The gap before the token gets longer.
    obtain ⟨later, rfl⟩ : first <+: between :=
      List.prefix_of_prefix_length_le ⟨second, whole.symm⟩ ⟨_, rfl⟩ (by omega)
    rw [List.append_assoc] at whole
    obtain rfl := List.append_cancel_left whole
    rw [next_of_le before] at spaces
    exact Cuts.insert_before gapped solid cuts spaces again

end Tokens

/-! ### Where tokens begin and end -/

/-- Tokens that tile a source come one after another and inside of it. -/
theorem Tiles.ordered {source : Bytes} {offset : Nat} {tokens : List Token}
    (tiles : Tiles source offset tokens) :
    offset ≤ source.length ∧
    (∀ token ∈ tokens, offset ≤ token.span.start ∧ token.span.start ≤ token.span.stop ∧
      token.span.stop ≤ source.length) ∧
    tokens.Pairwise fun earlier later => earlier.span.stop ≤ later.span.start := by
  induction tokens generalizing offset with
  | nil => exact ⟨Nat.le_of_eq tiles, List.forall_mem_nil _, .nil⟩
  | cons token rest hypothesis =>
    obtain ⟨start, stop, -, tiles⟩ := tiles
    obtain ⟨within, inside, pairwise⟩ := hypothesis tiles
    refine ⟨by omega, List.forall_mem_cons.mpr ⟨⟨start, stop, within⟩, fun token member => ?_⟩,
      List.pairwise_cons.mpr ⟨fun token member => (inside token member).1, pairwise⟩⟩
    obtain ⟨first, last⟩ := inside token member
    exact ⟨by omega, last⟩

namespace Tokens

/-- Where a token begins or ends, no word goes on. -/
theorem partAt_of_boundary {source : Bytes} {offset : Nat}
    (boundary : ∃ token ∈ (ofSource source).toList,
      offset = token.span.start ∨ offset = token.span.stop) :
    (ofSource source).PartAt offset ∧ offset ≤ source.length := by
  obtain ⟨token, member, place⟩ := boundary
  obtain ⟨-, inside, pairwise⟩ := (tiles_ofSource source).ordered
  have own := inside token member
  refine ⟨fun other word => ?_, by omega⟩
  have listed : other ∈ (ofSource source).toList := List.mem_append_left _ word
  obtain ⟨front, back, whole⟩ := List.append_of_mem member
  rw [whole] at listed pairwise
  obtain ⟨-, after, before⟩ := List.pairwise_append.mp pairwise
  rcases List.mem_append.mp listed with earlier | later
  · have apart := before other earlier token List.mem_cons_self
    omega
  · rcases List.mem_cons.mp later with rfl | later
    · omega
    · have apart := List.rel_of_pairwise_cons after later
      omega

/-- A source without faults has all its strings closed. -/
theorem problems_eq_nil_iff (tokens : Tokens) :
    tokens.words.filterMap Token.problem? = [] ↔ ∀ token ∈ tokens.words, token.closed = true := by
  refine List.filterMap_eq_nil_iff.trans (forall₂_congr fun token _ => ?_)
  unfold Token.problem?
  cases token.closed
  · exact iff_of_false nofun nofun
  · exact iff_of_true rfl rfl

end Tokens

/-- Only a token that is not closed has a fault, and that is what its message says. -/
theorem Token.problem_eq_some_iff {token : Token} {diagnostic : Diagnostic} :
    token.problem? = some diagnostic ↔ token.closed = false ∧
      diagnostic = (Cause.unterminatedString token.span.line).placed token.span := by
  unfold Token.problem?
  cases token.closed
  · exact ⟨fun same => ⟨rfl, (Option.some.inj same).symm⟩, fun same => congrArg some same.2.symm⟩
  · exact iff_of_false nofun nofun

/-- What a token says, wherever it stands. -/
def Token.content (token : Token) : TokenKind × Bytes × Int64 :=
  (token.kind, token.text, token.value)

/-- Tokens that differ only in their places say the same. -/
theorem Tokens.contents_of_unplaced {first second : Tokens}
    (same : first.unplaced = second.unplaced) :
    first.toList.map Token.content = second.toList.map Token.content ∧
      (first.words.filterMap Token.problem? = [] ↔ second.words.filterMap Token.problem? = []) := by
  have contents (tokens : Tokens) :
      tokens.toList.map Token.content = tokens.unplaced.toList.map Token.content := by
    unfold Tokens.toList Tokens.unplaced
    rw [List.map_append, List.map_append, List.map_map]
    rfl
  have closed (tokens : Tokens) : (∀ token ∈ tokens.words, token.closed = true) ↔
      ∀ token ∈ tokens.unplaced.words, token.closed = true := by
    unfold Tokens.unplaced
    rw [List.forall_mem_map]
    rfl
  rw [contents, contents second, Tokens.problems_eq_nil_iff, Tokens.problems_eq_nil_iff, closed,
    closed second, same]
  exact ⟨rfl, Iff.rfl⟩

/-- Blanks and comments never change the tokens. Where a token of a source without faults begins or
ends, blanks may be written, and a comment when the next token there is a newline or the end of the
input. The kinds, the texts and the values of the tokens stay as they are, and no fault comes up. -/
theorem spaces_keep_tokens {source extra : Bytes} {offset : Nat}
    (sound : (Tokens.ofSource source).words.filterMap Token.problem? = [])
    (boundary : ∃ token ∈ (Tokens.ofSource source).toList,
      offset = token.span.start ∨ offset = token.span.stop)
    (spaces : Spaces extra (((Tokens.ofSource source).next offset).kind = .newline ∨
      ((Tokens.ofSource source).next offset).kind = .endOfInput)) :
    let spaced := Tokens.ofSource (source.take offset ++ extra ++ source.drop offset)
    spaced.toList.map Token.content = (Tokens.ofSource source).toList.map Token.content ∧
      spaced.words.filterMap Token.problem? = [] := by
  obtain ⟨parts, inside⟩ := Tokens.partAt_of_boundary boundary
  have reached : Position.start.offset + (source.take offset).length = offset := by
    rw [List.length_take_of_le inside]
    exact Nat.zero_add _
  have again := Tokens.cuts_ofSource (source.take offset ++ extra ++ source.drop offset)
  rw [List.append_assoc] at again
  rw [← reached] at parts spaces
  have same := (Tokens.cuts_ofSource source).insert ((Tokens.problems_eq_nil_iff _).mp sound)
    (List.take_append_drop offset source).symm parts spaces again
  intro spaced
  rw [← List.append_assoc] at same
  obtain ⟨contents, problems⟩ := Tokens.contents_of_unplaced same
  exact ⟨contents, problems.mpr sound⟩

/-- A comment may be written before another one, right after a name. -/
theorem comment_before_comment :
    let source := ascii "a#c\r\n12ab**'#'"
    let tokens := Tokens.ofSource source
    tokens.words.filterMap Token.problem? = [] ∧
    (∃ token ∈ tokens.toList, 1 = token.span.start ∨ 1 = token.span.stop) ∧
    Spaces (ascii "#x=") ((tokens.next 1).kind = .newline ∨ (tokens.next 1).kind = .endOfInput) ∧
    (Tokens.ofSource (source.take 1 ++ ascii "#x=" ++ source.drop 1)).toList.map Token.content =
      tokens.toList.map Token.content := by
  intro source tokens
  have sound : tokens.words.filterMap Token.problem? = [] := by decide +kernel
  have boundary : ∃ token ∈ tokens.toList, 1 = token.span.start ∨ 1 = token.span.stop := by
    decide +kernel
  have spaces : Spaces (ascii "#x=")
      ((tokens.next 1).kind = .newline ∨ (tokens.next 1).kind = .endOfInput) :=
    .inr (by decide +kernel)
  exact ⟨sound, boundary, spaces, (spaces_keep_tokens sound boundary spaces).1⟩

end Scriptling
