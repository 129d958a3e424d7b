/-
This file proves that the place of an expression covers just its own text. Each
part of an expression that was read is made of a run of the tokens, and its place
goes from the start of the first of them to the stop of the last. The runs of the
parts that stand side by side come one after another, so their places are apart
and inside that of the whole.

The text at that place is cut into these same tokens. They spell the part, and
the part is grouped as the whole is, so it is what is read there, unless one
level too many is met: a part may stand deeper alone than it did in its whole.
-/

import Scriptling.Proofs.Token.Slicing
import Scriptling.Proofs.Tree.Consumption
import Scriptling.Proofs.Tree.Making
import Scriptling.Proofs.Tree.RoundTrip

namespace Scriptling

/-! ### Parts of an expression -/

namespace Expr

/-- The expressions that stand immediately inside another, from left to right. -/
def children : Expr → List Expr
  | .number .. | .string .. | .name .. => []
  | .binary _ _ left right => [left, right]
  | .unary _ _ operand => [operand]
  | .call _ _ arguments => arguments
  | .paren _ inner => [inner]
  | .list _ items => items
  | .subscript _ target index => [target, index]

/-- An expression is another one or stands inside it, at any depth. -/
inductive PartOf (part : Expr) : Expr → Prop
  | self : PartOf part part
  | inside {child whole : Expr} : child ∈ whole.children → PartOf part child → PartOf part whole

theorem AllGrouped.mem {items : List Expr} (grouped : AllGrouped items) {item : Expr}
    (member : item ∈ items) : item.Grouped := by
  induction items with
  | nil => cases member
  | cons first rest hypothesis =>
    rcases List.mem_cons.mp member with rfl | later
    · exact grouped.1
    · exact hypothesis grouped.2 later

theorem Grouped.child {expr child : Expr} (grouped : expr.Grouped)
    (member : child ∈ expr.children) : child.Grouped := by
  cases expr with
  | number | string | name => cases member
  | binary span operator left right =>
    obtain ⟨-, -, groupedLeft, groupedRight⟩ := grouped
    rcases List.mem_pair.mp member with rfl | rfl
    · exact groupedLeft
    · exact groupedRight
  | unary span operator operand =>
    rw [List.mem_singleton.mp member]
    exact grouped.2
  | call span callee arguments => exact AllGrouped.mem grouped member
  | paren span inner =>
    rw [List.mem_singleton.mp member]
    exact grouped
  | list span items => exact AllGrouped.mem grouped member
  | subscript span target index =>
    obtain ⟨-, groupedTarget, groupedIndex⟩ := grouped
    rcases List.mem_pair.mp member with rfl | rfl
    · exact groupedTarget
    · exact groupedIndex

/-- The parts of a grouped expression are grouped. -/
theorem PartOf.grouped {part whole : Expr} (inside : part.PartOf whole) (grouped : whole.Grouped) :
    part.Grouped := by
  induction inside with
  | self => exact grouped
  | inside member _ hypothesis => exact hypothesis (grouped.child member)

/-! ### Runs of tokens -/

/-- Some expressions are made of runs of the tokens, one after another. -/
inductive Among : List Expr → List Token → Prop
  | none (tokens : List Token) : Among [] tokens
  | next {child : Expr} {rest : List Expr} (before : List Token) {run after : List Token} :
    child.MadeOf run → Among rest after → Among (child :: rest) (before ++ (run ++ after))

/-- More tokens may stand before all the runs. -/
theorem Among.prepend {children : List Expr} {tokens : List Token} (among : Among children tokens)
    (more : List Token) : Among children (more ++ tokens) := by
  cases among with
  | none => exact .none _
  | next before made rest =>
    rw [← List.append_assoc]
    exact .next (more ++ before) made rest

theorem AllMadeOf.among {items : List Expr} {tokens : List Token} (made : AllMadeOf items tokens)
    (after : List Token) : Among items (tokens ++ after) := by
  cases made with
  | none => exact .none _
  | last item => exact .next [] item (.none after)
  | @comma _ _ itemTokens restTokens comma item _ rest =>
    rw [List.append_assoc]
    exact .next [] item ((rest.among after).prepend [comma])

/-- What stands inside an expression is made of runs of its tokens. -/
theorem MadeOf.among {expr : Expr} {tokens : List Token} (made : expr.MadeOf tokens) :
    Among expr.children tokens := by
  cases made with
  | number | string | name => exact .none _
  | @binary _ _ _ rightTokens sign _ left _ right =>
    have last := Among.next [sign] right (.none [])
    rw [List.append_nil] at last
    exact .next [] left last
  | @unary _ tokens sign _ _ operand =>
    have last := Among.next [sign] operand (.none [])
    rw [List.append_nil] at last
    exact last
  | @call callee opens closes _ tokens _ _ arguments =>
    exact (arguments.among [closes]).prepend [callee, opens]
  | @paren opens closes _ tokens _ inner => exact .next [opens] inner (.none [closes])
  | @list opens closes _ tokens _ items => exact (items.among [closes]).prepend [opens]
  | @subscript _ _ _ _ opens closes target _ index =>
    rw [List.append_assoc]
    exact .next [] target (.next [opens] index (.none [closes]))

theorem Among.mem {children : List Expr} {tokens : List Token} (among : Among children tokens)
    {child : Expr} (member : child ∈ children) :
    ∃ before run after, tokens = before ++ (run ++ after) ∧ child.MadeOf run := by
  induction among with
  | none => cases member
  | @next first rest before run after made _ hypothesis =>
    rcases List.mem_cons.mp member with rfl | later
    · exact ⟨before, run, after, rfl, made⟩
    · obtain ⟨between, inner, last, rfl, found⟩ := hypothesis later
      refine ⟨before ++ (run ++ between), inner, last, ?_, found⟩
      simp only [List.append_assoc]

/-- Every part of an expression is made of a run of its tokens. -/
theorem MadeOf.part {whole part : Expr} {tokens : List Token} (made : whole.MadeOf tokens)
    (inside : part.PartOf whole) :
    ∃ before run after, tokens = before ++ (run ++ after) ∧ part.MadeOf run := by
  induction inside generalizing tokens with
  | self => exact ⟨[], tokens, [], (List.append_nil _).symm, made⟩
  | inside member _ hypothesis =>
    obtain ⟨before, run, after, rfl, madeChild⟩ := made.among.mem member
    obtain ⟨front, inner, back, rfl, found⟩ := hypothesis madeChild
    refine ⟨before ++ front, inner, back ++ after, ?_, found⟩
    simp only [List.append_assoc]

end Expr

/-! ### Places -/

/-- Tokens stand one after another. -/
structure Token.InOrder (tokens : List Token) : Prop where
  forward : ∀ token ∈ tokens, token.span.start ≤ token.span.stop
  apart : tokens.Pairwise fun earlier later => earlier.span.stop ≤ later.span.start

namespace Token.InOrder

variable {tokens first second : List Token}

theorem sublist (ordered : InOrder tokens) (fewer : first.Sublist tokens) : InOrder first :=
  ⟨fun token member => ordered.forward token (fewer.mem member), ordered.apart.sublist fewer⟩

theorem left (ordered : InOrder (first ++ second)) : InOrder first :=
  ordered.sublist (List.sublist_append_left first second)

theorem right (ordered : InOrder (first ++ second)) : InOrder second :=
  ordered.sublist (List.sublist_append_right first second)

theorem between (ordered : InOrder (first ++ second)) {earlier later : Token}
    (before : earlier ∈ first) (after : later ∈ second) :
    earlier.span.stop ≤ later.span.start :=
  (List.pairwise_append.mp ordered.apart).2.2 earlier before later after

/-- The first of some tokens starts first, and the last of them stops last. -/
theorem ends (ordered : InOrder tokens) {opening closing token : Token}
    (begins : tokens.head? = some opening) (stops : tokens.getLast? = some closing)
    (member : token ∈ tokens) :
    opening.span.start ≤ token.span.start ∧ token.span.stop ≤ closing.span.stop := by
  have forward := ordered.forward
  constructor
  · obtain ⟨rest, rfl⟩ := List.head?_eq_some_iff.mp begins
    rcases List.mem_cons.mp member with rfl | later
    · exact Nat.le_refl _
    · exact Nat.le_trans (forward opening List.mem_cons_self)
        (List.rel_of_pairwise_cons ordered.apart later)
  · obtain ⟨front, rfl⟩ := List.getLast?_eq_some_iff.mp stops
    rcases List.mem_append.mp member with earlier | last
    · exact Nat.le_trans (ordered.between earlier (List.mem_singleton_self closing))
        (forward closing (List.mem_append_right _ (List.mem_singleton_self closing)))
    · rw [List.mem_singleton.mp last]

end Token.InOrder

/-- From the start of one place, with its line and column, to the stop of another. -/
def Span.upTo (first last : Span) : Span :=
  ⟨first.start, last.stop, first.line, first.column⟩

theorem Span.through_eq_upTo {first last : Span} (le : first.stop ≤ last.stop) :
    first.through last = first.upTo last := by
  unfold through upTo
  rw [Nat.max_eq_right le]

/-- A place goes over some tokens, from the first through the last. -/
def Span.Covers (span : Span) (tokens : List Token) : Prop :=
  ∃ first last, tokens.head? = some first ∧ tokens.getLast? = some last ∧
    span = first.span.upTo last.span

namespace Span.Covers

variable {span other : Span} {first last : List Token}

theorem single (token : Token) : token.span.Covers [token] :=
  ⟨token, token, rfl, rfl, rfl⟩

/-- Two places that cover the ends of some tokens cover all of them together. -/
theorem through (covers : span.Covers first) (middle : List Token) (covering : other.Covers last)
    (ordered : Token.InOrder (first ++ (middle ++ last))) :
    (span.through other).Covers (first ++ (middle ++ last)) := by
  obtain ⟨opening, ending, begins, ends, rfl⟩ := covers
  obtain ⟨next, closing, beginsLast, endsLast, rfl⟩ := covering
  have member : next ∈ last := List.mem_of_mem_head? beginsLast
  have apart := ordered.between (List.mem_of_getLast? ends) (List.mem_append_right middle member)
  have forward := ordered.right.right.forward next member
  have inside := (ordered.right.right.ends beginsLast endsLast member).2
  refine ⟨opening, closing, ?_, ?_, ?_⟩
  · rw [List.head?_append, begins]
    rfl
  · rw [List.getLast?_append, List.getLast?_append, endsLast]
    rfl
  · refine through_eq_upTo (show ending.span.stop ≤ closing.span.stop by omega)

/-- A place that covers some tokens holds whatever covers a run of them. -/
theorem inside {before run after : List Token} (covers : span.Covers (before ++ (run ++ after)))
    (covering : other.Covers run) (ordered : Token.InOrder (before ++ (run ++ after))) :
    span.start ≤ other.start ∧ other.stop ≤ span.stop := by
  obtain ⟨opening, closing, begins, ends, rfl⟩ := covers
  obtain ⟨first, last, beginsRun, endsRun, rfl⟩ := covering
  have within {token : Token} (member : token ∈ run) : token ∈ before ++ (run ++ after) :=
    List.mem_append_right _ (List.mem_append_left _ member)
  exact ⟨(ordered.ends begins ends (within (List.mem_of_mem_head? beginsRun))).1,
    (ordered.ends begins ends (within (List.mem_of_getLast? endsRun))).2⟩

/-- Places that cover tokens of two runs are apart. -/
theorem apart (covers : span.Covers first) {middle : List Token} (covering : other.Covers last)
    (ordered : Token.InOrder (first ++ (middle ++ last))) : span.stop ≤ other.start := by
  obtain ⟨_, ending, -, ends, rfl⟩ := covers
  obtain ⟨opening, _, begins, -, rfl⟩ := covering
  exact ordered.between (List.mem_of_getLast? ends)
    (List.mem_append_right middle (List.mem_of_mem_head? begins))

end Span.Covers

namespace Expr

/-- The place of an expression covers the tokens it is made of. -/
theorem MadeOf.covers {expr : Expr} {tokens : List Token} (made : expr.MadeOf tokens)
    (ordered : Token.InOrder tokens) : expr.span.Covers tokens := by
  cases made with
  | number | string | name => exact .single _
  | @binary _ _ _ _ sign _ left _ right =>
    exact (left.covers ordered.left).through [sign]
      (right.covers (ordered.right.sublist (List.sublist_cons_self ..))) ordered
  | @unary _ tokens sign _ _ operand =>
    exact (Span.Covers.single sign).through []
      (operand.covers (ordered.sublist (List.sublist_cons_self ..))) ordered
  | @call callee opens closes _ tokens _ _ _ _ _ =>
    exact (Span.Covers.single callee).through (opens :: tokens) (.single closes) ordered
  | @paren opens closes _ tokens _ _ _ =>
    exact (Span.Covers.single opens).through tokens (.single closes) ordered
  | @list opens closes _ tokens _ _ _ _ =>
    exact (Span.Covers.single opens).through tokens (.single closes) ordered
  | @subscript _ _ targetTokens indexTokens opens closes target _ _ _ =>
    rw [List.append_assoc] at ordered ⊢
    exact (target.covers ordered.left).through (opens :: indexTokens) (.single closes) ordered

/-- Expressions that are made of runs of tokens are apart, and come in the order of the runs. -/
theorem Among.apart {children : List Expr} {tokens : List Token} (among : Among children tokens)
    (ordered : Token.InOrder tokens) :
    children.Pairwise fun earlier later => earlier.span.stop ≤ later.span.start := by
  induction among with
  | none => exact .nil
  | @next child rest before run after made among hypothesis =>
    refine List.pairwise_cons.mpr ⟨fun other member => ?_, hypothesis ordered.right.right⟩
    obtain ⟨between, runOther, last, rfl, madeOther⟩ := among.mem member
    have inner : Token.InOrder (run ++ (between ++ runOther)) := by
      have rest := ordered.right
      rw [← List.append_assoc between, ← List.append_assoc] at rest
      exact rest.left
    exact (made.covers inner.left).apart (madeOther.covers inner.right.right) inner

end Expr

/-! ### Sources -/

/-- The words of a source stand one after another. -/
theorem Tokens.inOrder_ofSource (source : Bytes) : Token.InOrder (ofSource source).words := by
  obtain ⟨-, inside, apart⟩ := (tiles_ofSource source).ordered
  exact ⟨fun token member => (inside token (List.mem_append_left _ member)).2.1,
    apart.sublist (List.sublist_append_left _ _)⟩

/-- Tokens that differ only in their places are the same words, and closed alike. -/
theorem Token.words_of_unplaced {first second : List Token}
    (same : first.map Token.unplaced = second.map Token.unplaced)
    (closed : ∀ token ∈ second, token.closed = true) :
    first.map Token.word = second.map Token.word ∧ ∀ token ∈ first, token.closed = true := by
  have words (tokens : List Token) :
      tokens.map Token.word = (tokens.map Token.unplaced).map Token.word := by
    rw [List.map_map]
    rfl
  have faults (tokens : List Token) : (∀ token ∈ tokens, token.closed = true) ↔
      ∀ token ∈ tokens.map Token.unplaced, token.closed = true := by
    rw [List.forall_mem_map]
    rfl
  rw [words first, words second, faults, same, ← faults]
  exact ⟨rfl, closed⟩

/-- Words that spell a grouped expression are read as that expression and nothing after it. -/
theorem Reader.recovers_wholeExpression {expr : Expr} {words : List Word}
    (spelled : expr.Spelled words) (grouped : expr.Grouped) :
    Recovers expr.Few (nestingLimit ≤ 2 * words.length) words [] (Alike expr) wholeExpression := by
  have whole := complete_expression nestingLimit expr words [] spelled grouped rfl rfl
  rw [List.append_nil] at whole
  refine recovers_bind whole fun result same => ?_
  refine recovers_bind (recovers_skipNewlines_of_other fun same => nomatch same) fun _ _ => ?_
  refine recovers_bind (recovers_sees rfl) fun found ended => ?_
  rw [if_pos (ended.mpr rfl)]
  exact recovers_pure same

/-- A source whose words spell a grouped expression with short lists gives that expression, up to
its places, or just the message that a token of it is a level too many. -/
theorem Expr.ofSource_of_words {source : Bytes} {expr : Expr}
    (closed : ∀ token ∈ (Tokens.ofSource source).words, token.closed = true)
    (spelled : expr.Spelled ((Tokens.ofSource source).words.map Token.word))
    (grouped : expr.Grouped) (few : expr.Few) :
    (∃ other, ofSource source = .ok other ∧ other.unplaced = expr.unplaced) ∨
    ∃ token ∈ (Tokens.ofSource source).toList, ofSource source = .error [token.tooDeep] ∧
      nestingLimit ≤ 2 * (Tokens.ofSource source).words.length := by
  have read := Reader.recovers_wholeExpression spelled grouped _ (Tokens.faces_ofSource source)
  have clean (cursor : Cursor) : (Tokens.ofSource source).problemsSeen cursor = [] :=
    List.filterMap_eq_nil_iff.mpr fun token member =>
      if_pos (closed token (List.mem_of_mem_take member))
  have follows := Reader.thrifty_wholeExpression (Cursor.thrifty_ofTokens source)
  unfold ofSource
  dsimp only
  cases ended : Reader.wholeExpression (Cursor.ofTokens (Tokens.ofSource source)) with
  | ok other after =>
    dsimp only
    rw [clean]
    exact .inl ⟨other, rfl, (read.of_ok ended).2⟩
  | error diagnostic after =>
    obtain ⟨rfl, deep⟩ := read.of_error ended few
    rw [List.length_map] at deep
    dsimp only
    rw [clean]
    refine .inr ⟨after.current, ?_, congrArg Except.error (List.mergeSort_singleton _), deep⟩
    obtain ⟨rest, begins⟩ := after.tokens_eq_cons
    refine (follows.of_error ended).2.tokens.mem ?_
    rw [begins]
    exact List.mem_cons_self

/-- An expression that is read from a source without any message is grouped and made of the first
tokens, and every string is closed. -/
theorem Expr.made_of_ofSource {source : Bytes} {expr : Expr} (read : ofSource source = .ok expr) :
    (∃ tokens rest, (Tokens.ofSource source).words = tokens ++ rest ∧ expr.MadeOf tokens) ∧
      expr.Grouped ∧ ∀ token ∈ (Tokens.ofSource source).words, token.closed = true := by
  have thrifty := Reader.thrifty_wholeExpression (Cursor.thrifty_ofTokens source)
  unfold ofSource at read
  dsimp only at read
  split at read
  next value cursor whole =>
    split at read
    next clean =>
      cases read
      obtain ⟨⟨stays, follows⟩, ends⟩ := thrifty.of_ok whole
      obtain ⟨middle, first, -⟩ := Reader.eq_of_wholeExpression whole
      have faces := Tokens.faces_ofSource source
      obtain ⟨tokens, split, -, made⟩ :=
        (Reader.makes_expression nestingLimit _ _ rfl faces.ends).of_ok first
      obtain ⟨_, _, -, -, -, grouped⟩ :=
        (Reader.reads_expression nestingLimit _ _ faces).of_ok first
      unfold Tokens.problemsSeen at clean
      rw [(stays.all_taken follows ends).2, List.take_of_length_le (Nat.le_add_right _ 2)] at clean
      exact ⟨⟨tokens, middle.ahead, split, made⟩, grouped, (Tokens.problems_eq_nil_iff _).mp clean⟩
    next => cases read
  next => cases read

/-- The place of an expression is just its own text. Whatever stands inside an expression that is
read, its place goes from the start of a token, with its line and column, to the stop of a token.
What stands immediately inside it has places that are inside its own, apart from each other and in
their order. Reading the text at its place gives the same expression up to places, or nothing but
the message that a token is a level too many, and that only in a text of many words. -/
theorem expression_place_is_its_text {source : Bytes} {expr part : Expr}
    (read : Expr.ofSource source = .ok expr) (inside : part.PartOf expr) :
    (∃ first ∈ (Tokens.ofSource source).words, ∃ last ∈ (Tokens.ofSource source).words,
      part.span = ⟨first.span.start, last.span.stop, first.span.line, first.span.column⟩) ∧
    (∀ child ∈ part.children,
      part.span.start ≤ child.span.start ∧ child.span.stop ≤ part.span.stop) ∧
    (part.children.Pairwise fun earlier later => earlier.span.stop ≤ later.span.start) ∧
    let text := stretch source part.span.start part.span.stop
    (∃ other, Expr.ofSource text = .ok other ∧ other.unplaced = part.unplaced) ∨
      ∃ token ∈ (Tokens.ofSource text).toList, Expr.ofSource text = .error [token.tooDeep] ∧
        nestingLimit ≤ 2 * (Tokens.ofSource text).words.length := by
  obtain ⟨⟨tokens, rest, split, made⟩, grouped, closed⟩ := Expr.made_of_ofSource read
  obtain ⟨before, run, after, rfl, madePart⟩ := made.part inside
  have ordered : Token.InOrder (before ++ (run ++ after)) :=
    (split ▸ Tokens.inOrder_ofSource source).left
  have orderedRun : Token.InOrder run := ordered.right.left
  have covers := madePart.covers orderedRun
  have listed {token : Token} (member : token ∈ run) : token ∈ (Tokens.ofSource source).words :=
    split ▸ List.mem_append_left _ (List.mem_append_right _ (List.mem_append_left _ member))
  refine ⟨?_, fun child member => ?_, madePart.among.apart orderedRun, ?_⟩
  · obtain ⟨first, last, begins, ends, place⟩ := covers
    exact ⟨first, listed (List.mem_of_mem_head? begins), last,
      listed (List.mem_of_getLast? ends), place⟩
  · obtain ⟨front, runChild, back, rfl, madeChild⟩ := madePart.among.mem member
    exact covers.inside (madeChild.covers orderedRun.right.left) orderedRun
  · obtain ⟨first, last, begins, ends, place⟩ := covers
    rw [place]
    have whole : (Tokens.ofSource source).words = before ++ (run ++ (after ++ rest)) := by
      rw [split]
      simp only [List.append_assoc]
    have same := Tokens.words_stretch closed whole begins ends
    obtain ⟨words, closedText⟩ := Token.words_of_unplaced same fun token member =>
      closed token (listed member)
    exact Expr.ofSource_of_words closedText (words ▸ madePart.spelled) (inside.grouped grouped)
      madePart.few

/-- A power in parentheses stands alone as well. -/
theorem power_in_parentheses_is_its_text :
    let power := Expr.binary ⟨2, 7, 1, 3⟩ .power (.name ⟨2, 3, 1, 3⟩ (ascii "a"))
      (.number ⟨6, 7, 1, 7⟩ 2)
    let tree := Expr.unary ⟨0, 8, 1, 1⟩ .negate (.paren ⟨1, 8, 1, 2⟩ power)
    let source := ascii "-(a **2)"
    Expr.ofSource source = .ok tree ∧ power.PartOf tree ∧ stretch source 2 7 = ascii "a **2" ∧
    ∃ other, Expr.ofSource (ascii "a **2") = .ok other ∧ other.unplaced = power.unplaced := by
  intro power tree source
  have read : Expr.ofSource (ascii "-(a **2)") = .ok tree := by cbv
  have inside : power.PartOf tree := .inside List.mem_cons_self (.inside List.mem_cons_self .self)
  have text : stretch source 2 7 = ascii "a **2" := by decide +kernel
  obtain ⟨-, -, -, again⟩ := expression_place_is_its_text read inside
  change (∃ other, Expr.ofSource (stretch source 2 7) = .ok other ∧ _) ∨
    ∃ token ∈ (Tokens.ofSource (stretch source 2 7)).toList, _ at again
  rw [text] at again
  refine ⟨read, inside, text, again.resolve_right ?_⟩
  rintro ⟨token, -, -, deep⟩
  exact absurd deep (by decide +kernel)

end Scriptling
