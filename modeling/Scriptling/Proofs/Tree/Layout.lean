/-
This file says how the words of a source make up its statements. Within a
statement stand its reserved words, names, signs and expressions, in the order
of the grammar; a comma may end the parameters. At some places a line may end:
between statements and at both ends of the source, between the colon of a header
and its body, and before the next arm or the `else` of an `if`. What may stand at
these places is left open here. It may be newlines, or nothing at all when the
newlines are taken out of the words.

The same words could be attached in several ways where an `else` may belong to
more than one `if`. It belongs to the nearest one that is still open.
-/

import Scriptling.Proofs.Tree.Rereading

namespace Scriptling

/-! ### Statements as words -/

/-- Some words are names with commas between them, and perhaps a comma after the last. -/
inductive Name.AllSpelled : List Name → List Word → Prop
  | none : AllSpelled [] []
  | last (name : Name) : AllSpelled [name] [.name name]
  | comma (name : Name) {rest : List Name} {words : List Word} : AllSpelled rest words →
    AllSpelled (name :: rest) (.name name :: .mark .comma :: words)

mutual

/-- A statement is laid out as some words, with a pause where a line may end in it. -/
inductive Stmt.Laid (pause : List Word → Prop) : Stmt → List Word → Prop
  | expr {value : Expr} {words : List Word} : value.Spelled words →
    Stmt.Laid pause (.expr value) words
  | returnsNothing (span : Span) :
    Stmt.Laid pause (.returns span none) [.mark (.keyword .returnWord)]
  | returns (span : Span) {value : Expr} {words : List Word} : value.Spelled words →
    Stmt.Laid pause (.returns span (some value)) (.mark (.keyword .returnWord) :: words)
  | define (span : Span) (name : Name) {parameters : List Name} {body : Stmt}
    {names between words : List Word} : Name.AllSpelled parameters names → pause between →
      body.Laid pause words →
      Stmt.Laid pause (.define span name parameters body)
        (.mark (.keyword .defWord) :: .name name :: .mark .leftParen :: names ++
          .mark .rightParen :: .mark .colon :: between ++ words)
  | assign (span : Span) (name : Name) {value : Expr} {words : List Word} : value.Spelled words →
    Stmt.Laid pause (.assign span name value) (.name name :: .mark .assign :: words)
  | forLoop (span : Span) (loopName : Name) {iterable : Expr} {body : Stmt}
    {iterableWords between words : List Word} : iterable.Spelled iterableWords → pause between →
      body.Laid pause words →
      Stmt.Laid pause (.forLoop span loopName iterable body)
        (.mark (.keyword .forWord) :: .name loopName :: .mark (.keyword .inWord) ::
          iterableWords ++ .mark .colon :: between ++ words)
  | branch (span : Span) {condition : Expr} {body : Stmt} {others : Branches}
    {conditionWords between words othersWords : List Word} : condition.Spelled conditionWords →
      pause between → body.Laid pause words → others.Laid pause othersWords →
      Stmt.Laid pause (.branch span condition body others)
        (.mark (.keyword .ifWord) :: conditionWords ++ .mark .colon :: between ++ words ++
          othersWords)
  | whileLoop (span : Span) {condition : Expr} {body : Stmt}
    {conditionWords between words : List Word} : condition.Spelled conditionWords →
      pause between → body.Laid pause words →
      Stmt.Laid pause (.whileLoop span condition body)
        (.mark (.keyword .whileWord) :: conditionWords ++ .mark .colon :: between ++ words)
  | pass (span : Span) : Stmt.Laid pause (.pass span) [.mark (.keyword .passWord)]
  | breaks (span : Span) : Stmt.Laid pause (.breaks span) [.mark (.keyword .breakWord)]
  | continues (span : Span) : Stmt.Laid pause (.continues span) [.mark (.keyword .continueWord)]
  | imports (span : Span) (name : Name) :
    Stmt.Laid pause (.imports span name) [.mark (.keyword .importWord), .name name]

/-- What follows the first arm of an `if` is laid out as some words. -/
inductive Branches.Laid (pause : List Word → Prop) : Branches → List Word → Prop
  | arm {condition : Expr} {body : Stmt} {others : Branches}
    {before conditionWords between words othersWords : List Word} : pause before →
      condition.Spelled conditionWords → pause between → body.Laid pause words →
      others.Laid pause othersWords →
      Branches.Laid pause (.arm condition body others)
        (before ++ .mark (.keyword .elifWord) :: conditionWords ++ .mark .colon :: between ++
          words ++ othersWords)
  | otherwise {body : Stmt} {before between words : List Word} : pause before → pause between →
      body.Laid pause words →
      Branches.Laid pause (.otherwise body)
        (before ++ .mark (.keyword .elseWord) :: .mark .colon :: between ++ words)
  | done : Branches.Laid pause .done []

end

/-- The statements of a source are laid out as all its words. -/
inductive Stmt.AllLaid (pause : List Word → Prop) : List Stmt → List Word → Prop
  | none {words : List Word} : pause words → AllLaid pause [] words
  | next {item : Stmt} {rest : List Stmt} {before words restWords : List Word} : pause before →
    item.Laid pause words → AllLaid pause rest restWords →
      AllLaid pause (item :: rest) (before ++ words ++ restWords)

mutual

/-- Every `elif` and `else` in a statement belongs to the nearest `if` that is still open: no
body before one ends with an `if` that it could belong to. -/
def Stmt.Attached : Stmt → Prop
  | .define _ _ _ body | .forLoop _ _ _ body | .whileLoop _ _ body => body.Attached
  | .branch _ _ body others =>
    (others = .done ∨ ¬body.EndsOpen) ∧ body.Attached ∧ others.Attached
  | .expr _ | .returns .. | .assign .. | .pass _ | .breaks _ | .continues _ | .imports .. => True

def Branches.Attached : Branches → Prop
  | .arm _ body others => (others = .done ∨ ¬body.EndsOpen) ∧ body.Attached ∧ others.Attached
  | .otherwise body => body.Attached
  | .done => True

end

mutual

/-- No list of parameters, arguments or items and no chain of arms in a statement is longer than
allowed. -/
def Stmt.Few : Stmt → Prop
  | .expr value => value.Few
  | .returns _ value => ∀ result ∈ value, result.Few
  | .define _ _ parameters body => parameters.length ≤ itemLimit ∧ body.Few
  | .assign _ _ value => value.Few
  | .forLoop _ _ iterable body => iterable.Few ∧ body.Few
  | .branch _ condition body others =>
    1 + others.arms ≤ itemLimit ∧ condition.Few ∧ body.Few ∧ others.Few
  | .whileLoop _ condition body => condition.Few ∧ body.Few
  | .pass _ | .breaks _ | .continues _ | .imports .. => True

def Branches.Few : Branches → Prop
  | .arm condition body others => condition.Few ∧ body.Few ∧ others.Few
  | .otherwise body => body.Few
  | .done => True

end

/-! ### Newlines -/

namespace Word

/-- Some words are all newlines. -/
def Newlines (words : List Word) : Prop :=
  ∀ word ∈ words, word = .mark .newline

/-- There are no words. -/
def Nothing (words : List Word) : Prop :=
  words = []

/-- Some words without the newlines among them. -/
def squeezed (words : List Word) : List Word :=
  words.filter fun word => !word.isNewline

theorem isNewline_iff {word : Word} : word.isNewline = true ↔ word = .mark .newline := by
  unfold isNewline
  split
  next => exact iff_of_true rfl rfl
  next other => exact iff_of_false Bool.false_ne_true other

theorem nothing_nil : Nothing [] := rfl

theorem newlines_nil : Newlines [] :=
  List.forall_mem_nil _

theorem Newlines.append {first second : List Word} (before : Newlines first)
    (after : Newlines second) : Newlines (first ++ second) :=
  List.forall_mem_append.mpr ⟨before, after⟩

theorem Newlines.squeezed {words : List Word} (newlines : Newlines words) :
    squeezed words = [] := by
  refine List.filter_eq_nil_iff.mpr fun word member => ?_
  rw [newlines word member]
  exact Bool.false_ne_true

@[simp]
theorem squeezed_nil : squeezed [] = [] := rfl

@[simp]
theorem squeezed_append (first second : List Word) :
    squeezed (first ++ second) = squeezed first ++ squeezed second :=
  List.filter_append ..

@[simp]
theorem squeezed_mark {kind : TokenKind} (rest : List Word) (other : kind ≠ .newline) :
    squeezed (.mark kind :: rest) = .mark kind :: squeezed rest := by
  refine List.filter_cons_of_pos ?_
  rw [Bool.not_eq_true', ← Bool.not_eq_true, isNewline_iff]
  exact fun same => other (Word.mark.inj same)

@[simp]
theorem squeezed_name (name : Name) (rest : List Word) :
    squeezed (.name name :: rest) = .name name :: squeezed rest := rfl

end Word

/-- No newline is taken out of names with commas between them. -/
theorem Name.AllSpelled.squeezed {names : List Name} {words : List Word}
    (spelled : Name.AllSpelled names words) : Word.squeezed words = words := by
  induction spelled with
  | none => rfl
  | last => rfl
  | comma name _ hypothesis =>
    rw [Word.squeezed_name, Word.squeezed_mark _ (by decide), hypothesis]

namespace Expr

mutual

/-- No newline stands in an expression. -/
theorem Spelled.squeezed {expr : Expr} {words : List Word} (spelled : expr.Spelled words) :
    Word.squeezed words = words := by
  cases spelled with
  | number => rfl
  | string => rfl
  | name => rfl
  | binary span operator left right =>
    have sign (rest : List Word) :
        Word.squeezed (operator.word :: rest) = operator.word :: Word.squeezed rest := by
      cases operator <;> rfl
    rw [Word.squeezed_append, sign, left.squeezed, right.squeezed]
  | unary span operator operand =>
    have sign (rest : List Word) :
        Word.squeezed (operator.word :: rest) = operator.word :: Word.squeezed rest := by
      cases operator <;> rfl
    rw [sign, operand.squeezed]
  | call span callee arguments =>
    simp [arguments.squeezed]
  | paren span inner =>
    simp [inner.squeezed]
  | list span items =>
    simp [items.squeezed]
  | subscript span target index =>
    simp [target.squeezed, index.squeezed]

theorem AllSpelled.squeezed {items : List Expr} {words : List Word}
    (spelled : AllSpelled items words) : Word.squeezed words = words := by
  cases spelled with
  | none => rfl
  | last item => exact item.squeezed
  | comma item rest => simp [item.squeezed, rest.squeezed]

end

end Expr

mutual

/-- Without its newlines a statement is laid out without any pause. -/
theorem Stmt.Laid.squeezed {stmt : Stmt} {words : List Word}
    (laid : stmt.Laid Word.Newlines words) : stmt.Laid Word.Nothing (Word.squeezed words) := by
  cases laid with
  | expr value =>
    rw [value.squeezed]
    exact .expr value
  | returnsNothing span => exact .returnsNothing span
  | returns span value =>
    rw [Word.squeezed_mark _ (by decide), value.squeezed]
    exact .returns span value
  | define span name parameters between body =>
    have whole := Stmt.Laid.define span name parameters Word.nothing_nil body.squeezed
    simpa [parameters.squeezed, between.squeezed] using whole
  | assign span name value =>
    rw [Word.squeezed_name, Word.squeezed_mark _ (by decide), value.squeezed]
    exact .assign span name value
  | forLoop span loopName iterable between body =>
    have whole := Stmt.Laid.forLoop span loopName iterable Word.nothing_nil body.squeezed
    simpa [iterable.squeezed, between.squeezed] using whole
  | branch span condition between body others =>
    have whole := Stmt.Laid.branch span condition Word.nothing_nil body.squeezed others.squeezed
    simpa [condition.squeezed, between.squeezed] using whole
  | whileLoop span condition between body =>
    have whole := Stmt.Laid.whileLoop span condition Word.nothing_nil body.squeezed
    simpa [condition.squeezed, between.squeezed] using whole
  | pass span => exact .pass span
  | breaks span => exact .breaks span
  | continues span => exact .continues span
  | imports span name => exact .imports span name

theorem Branches.Laid.squeezed {branches : Branches} {words : List Word}
    (laid : branches.Laid Word.Newlines words) :
    branches.Laid Word.Nothing (Word.squeezed words) := by
  cases laid with
  | arm before condition between body others =>
    have whole := Branches.Laid.arm Word.nothing_nil condition Word.nothing_nil body.squeezed
      others.squeezed
    simpa [before.squeezed, condition.squeezed, between.squeezed] using whole
  | otherwise before between body =>
    have whole := Branches.Laid.otherwise Word.nothing_nil Word.nothing_nil body.squeezed
    simpa [before.squeezed, between.squeezed] using whole
  | done => exact .done

end

theorem Stmt.AllLaid.squeezed {items : List Stmt} {words : List Word}
    (laid : AllLaid Word.Newlines items words) :
    AllLaid Word.Nothing items (Word.squeezed words) := by
  induction laid with
  | none pause => exact .none pause.squeezed
  | next before item _ hypothesis =>
    have whole := Stmt.AllLaid.next Word.nothing_nil item.squeezed hypothesis
    simpa [before.squeezed] using whole

/-- More newlines may stand before the first statement. -/
theorem Stmt.AllLaid.after {items : List Stmt} {words newlines : List Word}
    (laid : AllLaid Word.Newlines items words) (blank : Word.Newlines newlines) :
    AllLaid Word.Newlines items (newlines ++ words) := by
  cases laid with
  | none pause => exact .none (blank.append pause)
  | next before item rest =>
    rw [← List.append_assoc, ← List.append_assoc]
    exact .next (blank.append before) item rest

/-- More newlines may stand before an arm or an `else`, and where no branch follows they stand
after what was laid out. -/
theorem Branches.Laid.after {others : Branches} {words newlines : List Word}
    (laid : others.Laid Word.Newlines words) (blank : Word.Newlines newlines) :
    ∃ own trailing, newlines ++ words = own ++ trailing ∧ others.Laid Word.Newlines own ∧
      Word.Newlines trailing := by
  cases laid with
  | arm before condition between body rest =>
    refine ⟨_, [], (List.append_nil _).symm, ?_, Word.newlines_nil⟩
    simp only [← List.append_assoc]
    exact .arm (blank.append before) condition between body rest
  | otherwise before between body =>
    refine ⟨_, [], (List.append_nil _).symm, ?_, Word.newlines_nil⟩
    simp only [← List.append_assoc]
    exact .otherwise (blank.append before) between body
  | done => exact ⟨[], newlines, List.append_nil _, .done, blank⟩

/-- A statement has a word at least. -/
theorem Stmt.Laid.length_pos {pause : List Word → Prop} {stmt : Stmt} {words : List Word}
    (laid : stmt.Laid pause words) : 0 < words.length := by
  cases laid with
  | expr value =>
    obtain ⟨word, rest, rfl, -⟩ := value.opens
    exact Nat.succ_pos _
  | _ => exact Nat.succ_pos _

end Scriptling
