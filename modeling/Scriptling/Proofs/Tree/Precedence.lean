/-
This file proves that precedence climbing is correct. The expression that a
source spells is the one and only grouped expression whose words are those of
the source: it is grouped and spelled by them because whatever is read is, and
there is no other because any other would have been read as well.
-/

import Mathlib
import Scriptling.Proofs.Token.Scanning
import Scriptling.Proofs.Tree.Completeness
import Scriptling.Proofs.Tree.Soundness
import Scriptling.Tree.Source

namespace Scriptling

/-- Before the first token is taken, a reader faces all words of the source. -/
theorem Tokens.faces_ofSource (source : Bytes) :
    (Cursor.ofTokens (ofSource source)).Faces ((ofSource source).words.map Token.word) :=
  ⟨rfl, (kind_ofSource source).1⟩

/-- None of the words of a source is its end. -/
theorem Tokens.word_ne_end {source : Bytes} {word : Word}
    (member : word ∈ (ofSource source).words.map Token.word) : word ≠ .mark .endOfInput := by
  obtain ⟨token, inside, rfl⟩ := List.mem_map.mp member
  exact mt (Token.word_eq_mark rfl).mp ((kind_ofSource source).2 token inside)

namespace Cursor

/-- Whoever sees the end of the input after some newlines has nothing but newlines ahead. -/
theorem words_of_skipNewlines {words : List Word}
    (inside : ∀ word ∈ words, word ≠ .mark .endOfInput) {cursor : Cursor}
    (faces : cursor.Faces words) (ended : cursor.skipNewlines.current.kind = .endOfInput) :
    words = List.replicate words.length (.mark .newline) := by
  induction words generalizing cursor with
  | nil => rfl
  | cons word rest hypothesis =>
    by_cases newline : word = .mark .newline
    · rw [faces.skipNewlines_of_cons newline] at ended
      have others := hypothesis (fun other member => inside other (List.mem_cons_of_mem _ member))
        faces.advance ended
      rw [List.length_cons, List.replicate_succ, ← others, newline]
    · rw [faces.skipNewlines_of_other newline] at ended
      have last := faces.current.symm.trans ((Token.word_eq_mark rfl).mpr ended)
      exact absurd last (inside word List.mem_cons_self)

end Cursor

/-- A whole expression is one expression, and there are only newlines after it. -/
theorem Reader.eq_of_wholeExpression {cursor after : Cursor} {expr : Expr}
    (read : wholeExpression cursor = .ok expr after) :
    ∃ middle, expression nestingLimit cursor = .ok expr middle ∧
      middle.skipNewlines.current.kind = .endOfInput := by
  obtain ⟨value, middle, first, read⟩ := bind_eq_ok.mp read
  obtain ⟨_, skipped, skips, read⟩ := bind_eq_ok.mp read
  obtain ⟨ended, _, sees, read⟩ := bind_eq_ok.mp read
  cases skips
  cases sees
  split at read
  next seen =>
    cases read
    exact ⟨middle, first, beq_iff_eq.mp seen⟩
  next => cases read

/-- Precedence climbing is correct. If an expression is read from a source, then its words are all
words of the source up to the newlines at the end, its operators are grouped by how tightly they
bind, and up to its places it is the only expression of which both is true. -/
theorem expression_is_the_grouped_one {source : Bytes} {expr : Expr}
    (read : Expr.ofSource source = .ok expr) :
    ∃ words newlines, (Tokens.ofSource source).words.map Token.word =
        words ++ List.replicate newlines (.mark .newline) ∧
      expr.Spelled words ∧ expr.Grouped ∧
      ∀ other : Expr, other.Spelled words → other.Grouped → other.unplaced = expr.unplaced := by
  unfold Expr.ofSource at read
  dsimp only at read
  split at read
  next value cursor whole =>
    split at read
    next =>
      cases read
      obtain ⟨middle, first, ended⟩ := Reader.eq_of_wholeExpression whole
      have faces := Tokens.faces_ofSource source
      obtain ⟨words, rest, split, facesRest, spelled, grouped⟩ :=
        (Reader.reads_expression nestingLimit _ _ faces).of_ok first
      have blank := Cursor.words_of_skipNewlines (fun word member =>
        Tokens.word_ne_end (split ▸ List.mem_append_right words member)) facesRest ended
      refine ⟨words, rest.length, blank ▸ split, spelled, grouped,
        fun other spelledOther grouped => ?_⟩
      have apart : (Word.first rest).goesOn = false := by
        rw [blank]
        cases rest <;> rfl
      have ends : (Word.first rest).binary? = none := by
        rw [blank]
        cases rest <;> rfl
      have recovers := Reader.complete_expression nestingLimit other words rest spelledOther grouped
        apart ends
      rw [split] at faces
      exact ((recovers _ faces).of_ok first).2.symm
    next => cases read
  next => cases read

set_option maxRecDepth 2000 in
/-- Powers group to the right and bind tighter than a sum, and a comma may end the arguments. -/
theorem power_is_grouped_right :
    let tree := Expr.binary ⟨0, 13, 1, 1⟩ .add (.number ⟨0, 1, 1, 1⟩ 1)
      (.binary ⟨2, 13, 1, 3⟩ .power (.name ⟨2, 3, 1, 3⟩ (ascii "a"))
        (.binary ⟨5, 13, 1, 6⟩ .power (.number ⟨5, 6, 1, 6⟩ 2)
          (.call ⟨8, 13, 1, 9⟩ (ascii "f") [.number ⟨10, 11, 1, 11⟩ 3])))
    Expr.ofSource (ascii "1+a**2**f(3,)") = .ok tree ∧ tree.Grouped ∧
    ∃ words, tree.Spelled words ∧
      ∀ other : Expr, other.Spelled words → other.Grouped → other.unplaced = tree.unplaced := by
  intro tree
  have read : Expr.ofSource (ascii "1+a**2**f(3,)") = .ok tree := by cbv
  obtain ⟨words, newlines, -, spelled, grouped, only⟩ := expression_is_the_grouped_one read
  exact ⟨read, grouped, words, spelled, only⟩

end Scriptling
