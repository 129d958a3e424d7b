/-
This file proves that the tokens of a source tile it. Each token stands where its
span says, on the line and in the column that the newlines before it give, and
between two tokens there are only blanks and comments, so that nothing of the
source is lost. A token is read off its own bytes: what stands after it decides
where it ends, and reading just these bytes gives the same token again.

The argument follows the cutting of the source once. Every word was read
somewhere in the source, from a byte that opens no gap, and all that is said of a
single word is said of what is read there.
-/

import Mathlib.Data.List.Find
import Mathlib.Data.List.Induction
import Mathlib.Data.List.TakeWhile
import Scriptling.Proofs.Token.Resumption
import Scriptling.Proofs.Token.Rereading

namespace Scriptling

/-! ### Stretches of a source -/

/-- The bytes of a source from one offset up to another. -/
def stretch (source : Bytes) (start stop : Nat) : Bytes :=
  (source.drop start).take (stop - start)

theorem stretch_append (before between after : Bytes) :
    stretch (before ++ (between ++ after)) before.length (before.length + between.length) =
      between := by
  unfold stretch
  rw [List.drop_left, Nat.add_sub_cancel_left, List.take_left]

/-- The bytes of the source that a token takes up. -/
def Token.taken (token : Token) (source : Bytes) : Bytes :=
  stretch source token.span.start token.span.stop

/-- What may stand before a token: blanks, and perhaps a comment, which goes on up to a newline or
to the end of the source. -/
def IsGap (between after : Bytes) : Prop :=
  ∃ blanks comment, between = blanks ++ comment ∧ (∀ byte ∈ blanks, Byte.isBlank byte = true) ∧
    (comment = [] ∨ comment.head? = some Byte.hash ∧ Byte.newline ∉ comment ∧
      (after = [] ∨ after.head? = some Byte.newline))

/-- Tokens tile a source from an offset on: each starts at or after the stop of the one before,
with only a gap between them, and the last stops where the source does. -/
def Tiles (source : Bytes) : Nat → List Token → Prop
  | offset, [] => offset = source.length
  | offset, token :: rest =>
    offset ≤ token.span.start ∧ token.span.start ≤ token.span.stop ∧
      IsGap (stretch source offset token.span.start) (source.drop token.span.start) ∧
        Tiles source token.span.stop rest

/-- A token is on the line that the newlines before it give, and its column counts from the start
of that line. -/
structure Token.Placed (token : Token) (source : Bytes) : Prop where
  line : token.span.line = 1 + (source.take token.span.start).count Byte.newline
  column : ∃ lines line, source.take token.span.start = lines ++ line ∧
    (lines = [] ∨ lines.getLast? = some Byte.newline) ∧ Byte.newline ∉ line ∧
      token.span.column = token.span.start - lines.length + 1

/-! ### Gaps -/

/-- Where a run of bytes of one class ends, another byte stands. -/
theorem head_dropWhile (test : UInt8 → Bool) (bytes : Bytes) :
    ∀ byte ∈ (bytes.dropWhile test).head?, test byte = false :=
  fun byte first => by
    have ends := List.head?_dropWhile_not test bytes
    rw [first] at ends
    simpa using ends

/-- The gap at the head of a source is one, and no gap goes on after it. -/
theorem isGap_gap (source : Bytes) :
    IsGap (gap source) (source.drop (gap source).length) ∧
      ∀ byte ∈ (source.drop (gap source).length).head?, Byte.IsSolid byte := by
  have split := List.takeWhile_append_dropWhile (p := Byte.isBlank) (l := source)
  have blank : ∀ byte ∈ source.takeWhile Byte.isBlank, Byte.isBlank byte = true :=
    fun byte member => List.mem_takeWhile_imp member
  have ends := head_dropWhile Byte.isBlank source
  unfold gap
  dsimp only
  generalize source.takeWhile Byte.isBlank = blanks at split blank ⊢
  generalize source.dropWhile Byte.isBlank = others at split ends ⊢
  subst split
  cases others with
  | nil =>
    rw [List.append_nil, List.drop_length]
    exact ⟨⟨blanks, [], (List.append_nil _).symm, blank, .inl rfl⟩, nofun⟩
  | cons byte rest =>
    dsimp only
    split
    next comment =>
      subst comment
      have line := List.takeWhile_append_dropWhile (p := (· != Byte.newline)) (l := rest)
      have inside : Byte.newline ∉ rest.takeWhile (· != Byte.newline) := fun member =>
        absurd (List.mem_takeWhile_imp member) (by decide)
      have stops : ∀ byte ∈ (rest.dropWhile (· != Byte.newline)).head?, byte = Byte.newline :=
        fun byte first => by simpa using head_dropWhile (· != Byte.newline) rest byte first
      generalize rest.takeWhile (· != Byte.newline) = comment at line inside ⊢
      generalize rest.dropWhile (· != Byte.newline) = after at line stops ⊢
      subst line
      have left : (blanks ++ Byte.hash :: (comment ++ after)).drop
          (blanks ++ Byte.hash :: comment).length = after := by
        rw [← List.cons_append, ← List.append_assoc, List.drop_left]
      rw [left]
      constructor
      · refine ⟨blanks, Byte.hash :: comment, rfl, blank, .inr ⟨rfl, ?_, ?_⟩⟩
        · exact List.not_mem_cons_of_ne_of_not_mem (by decide) inside
        · cases after with
          | nil => exact .inl rfl
          | cons next others => exact .inr (congrArg some (stops next rfl))
      · intro next first
        rw [stops next first]
        decide
    next other =>
      rw [List.drop_left]
      refine ⟨⟨blanks, [], (List.append_nil _).symm, blank, .inl rfl⟩, ?_⟩
      rintro _ ⟨⟩
      exact ⟨ends byte rfl, other⟩

/-! ### Positions -/

namespace Position

/-- The offset at the end of some bytes is how many they are. -/
theorem offset_advance_start (bytes : Bytes) : (start.advance bytes).offset = bytes.length :=
  (offset_advance start bytes).trans (Nat.zero_add _)

theorem line_advance (position : Position) (bytes : Bytes) :
    (position.advance bytes).line = position.line + bytes.count Byte.newline := by
  induction bytes generalizing position with
  | nil => rfl
  | cons byte rest hypothesis =>
    show ((position.step byte).advance rest).line = _
    rw [hypothesis, List.count_cons]
    unfold step
    by_cases newline : byte = Byte.newline
    · rw [if_pos newline, if_pos (beq_iff_eq.mpr newline)]
      show position.line + 1 + _ = _
      omega
    · rw [if_neg newline, if_neg fun same => newline (beq_iff_eq.mp same)]
      rfl

/-- The column at the end of some bytes counts those of the last line. -/
theorem column_advance (bytes : Bytes) : ∃ lines line, bytes = lines ++ line ∧
    (lines = [] ∨ lines.getLast? = some Byte.newline) ∧ Byte.newline ∉ line ∧
      (start.advance bytes).column = line.length + 1 := by
  induction bytes using List.reverseRecOn with
  | nil => exact ⟨[], [], rfl, .inl rfl, List.not_mem_nil, rfl⟩
  | append_singleton bytes byte hypothesis =>
    obtain ⟨lines, line, whole, begins, inside, column⟩ := hypothesis
    rw [advance_append]
    show ∃ lines line, _ ∧ _ ∧ _ ∧ ((start.advance bytes).step byte).column = _
    unfold step
    by_cases newline : byte = Byte.newline
    · rw [if_pos newline]
      refine ⟨bytes ++ [byte], [], (List.append_nil _).symm, .inr ?_, List.not_mem_nil, rfl⟩
      rw [List.getLast?_append, newline]
      rfl
    · rw [if_neg newline]
      refine ⟨lines, line ++ [byte], ?_, begins, ?_, ?_⟩
      · rw [whole, List.append_assoc]
      · intro member
        rcases List.mem_append.mp member with old | new
        · exact inside old
        · exact newline (List.mem_singleton.mp new).symm
      · show (start.advance bytes).column + 1 = _
        rw [column, List.length_append]
        rfl

end Position

/-! ### Reading one token -/

namespace Lexeme

/-- A reserved word is shorter than a name may be. -/
theorem length_of_keyword {name : Name} {keyword : Keyword}
    (found : Keyword.ofName? name = some keyword) : name.length < nameLimit := by
  have same := List.find?_some found
  rw [← beq_iff_eq.mp same]
  cases keyword <;> decide

/-- A run of bytes of one class is what it takes from the head of a text. -/
theorem take_takeWhile (test : UInt8 → Bool) (first : UInt8) (rest : Bytes) :
    (first :: rest).take (first :: rest.takeWhile test).length = first :: rest.takeWhile test := by
  rw [List.length_cons, List.take_succ_cons,
    ← List.prefix_iff_eq_take.mp (List.takeWhile_prefix test)]

/-- The text of a token that is no string and no newline is what it takes from the source, and only
so much of a name. -/
theorem text_read (first : UInt8) (rest : Bytes) :
    (read first rest).kind = .string ∨ (read first rest).kind = .newline ∨
      (read first rest).text =
        if (read first rest).kind = .identifier then
          ((first :: rest).take (read first rest).length).take nameLimit
        else (first :: rest).take (read first rest).length := by
  have opens := readBy_read first rest
  generalize read first rest = lexeme at opens ⊢
  cases opens with
  | newline => exact .inr (.inl rfl)
  | name =>
    refine .inr (.inr ?_)
    unfold ofName
    dsimp only
    rw [take_takeWhile]
    split
    next => rfl
    next named =>
      cases found : Keyword.ofName?
        ((first :: rest.takeWhile Byte.continuesName).take nameLimit) with
      | none =>
        rw [found] at named
        exact absurd rfl named
      | some keyword =>
        have short := length_of_keyword found
        rw [List.length_take] at short
        exact List.take_of_length_le (by omega)
  | number =>
    refine .inr (.inr ?_)
    unfold ofNumber
    dsimp only
    rw [take_takeWhile]
    rfl
  | string => exact .inl (kind_ofString _ _ _ _)
  | @symbol kind member spelled =>
    have named : kind ≠ .identifier := by
      rintro rfl
      exact absurd member (by decide)
    have length : (ascii kind.spelling).length = kind.spelling.length := List.length_map _
    refine .inr (.inr ?_)
    dsimp only
    rw [if_neg named, ← length]
    exact List.prefix_iff_eq_take.mp spelled
  | unknown => exact .inr (.inr rfl)

/-- A string is read off the bytes up to its end, and what stands after its closing quote does not
matter. -/
theorem ofString_append (quote : UInt8) (rest contents : Bytes) (length : Nat) {others : Bytes}
    (ends : (ofString quote rest contents length).closed = true ∨ others = []) :
    ofString quote (rest.take ((ofString quote rest contents length).length - length) ++ others)
      contents length = ofString quote rest contents length := by
  fun_induction ofString quote rest contents length with
  | case1 contents length =>
    obtain rfl := ends.resolve_left Bool.false_ne_true
    rw [List.take_nil, List.nil_append, ofString]
  | case2 rest contents length =>
    dsimp only
    rw [Nat.add_sub_cancel_left, List.take_succ_cons, List.cons_append, ofString_quote]
  | case3 contents length other =>
    obtain rfl := ends.resolve_left Bool.false_ne_true
    dsimp only
    rw [Nat.add_sub_cancel_left, List.take_succ_cons, List.take_nil, List.append_nil,
      ofString.eq_def]
    dsimp only
    rw [if_neg other, if_pos rfl]
  | case4 contents length escaped rest other hypothesis =>
    have le := le_length_ofString quote rest (unescape escaped :: contents) (length + 2)
    obtain ⟨more, total⟩ := Nat.exists_eq_add_of_le le
    have taken : (ofString quote rest (unescape escaped :: contents) (length + 2)).length - length =
        more + 1 + 1 := by omega
    have left : (ofString quote rest (unescape escaped :: contents) (length + 2)).length -
        (length + 2) = more := by omega
    have hypothesis := hypothesis ends
    rw [left] at hypothesis
    rw [taken, List.take_succ_cons, List.take_succ_cons, List.cons_append, List.cons_append,
      ofString_backslash _ _ _ _ _ other, hypothesis]
  | case5 byte rest contents length notQuote plain hypothesis =>
    have le := le_length_ofString quote rest (byte :: contents) (length + 1)
    obtain ⟨more, total⟩ := Nat.exists_eq_add_of_le le
    have taken : (ofString quote rest (byte :: contents) (length + 1)).length - length =
        more + 1 := by omega
    have left : (ofString quote rest (byte :: contents) (length + 1)).length - (length + 1) =
        more := by omega
    have hypothesis := hypothesis ends
    rw [left] at hypothesis
    rw [taken, List.take_succ_cons, List.cons_append, ofString_plain _ _ _ _ notQuote plain,
      hypothesis]

/-- A symbol is read off its own bytes. Whatever else could open them would open the whole text. -/
theorem ofSymbol_take (first : UInt8) (rest : Bytes) :
    ofSymbol first (rest.take ((ofSymbol first rest).length - 1)) = ofSymbol first rest := by
  have shorter {count : Nat} {kind : TokenKind}
      (opens : (ascii kind.spelling).isPrefixOf (first :: rest.take count) = true) :
      (ascii kind.spelling).isPrefixOf (first :: rest) = true := by
    rw [List.isPrefixOf_iff_prefix] at opens ⊢
    exact opens.trans (List.cons_prefix_cons.mpr ⟨rfl, List.take_prefix count rest⟩)
  unfold ofSymbol
  cases found : TokenKind.symbols.find? fun kind =>
      (ascii kind.spelling).isPrefixOf (first :: rest) with
  | none =>
    have none : TokenKind.symbols.find? (fun kind =>
        (ascii kind.spelling).isPrefixOf (first :: rest.take (1 - 1))) = none := by
      rw [List.find?_eq_none] at found ⊢
      exact fun kind member opens => found kind member (shorter opens)
    dsimp only
    rw [none]
  | some kind =>
    obtain ⟨opens, before, after, symbols, others⟩ := List.find?_eq_some_iff_append.mp found
    have length : (ascii kind.spelling).length = kind.spelling.length := List.length_map _
    have own : (ascii kind.spelling).isPrefixOf
        (first :: rest.take (kind.spelling.length - 1)) = true := by
      rw [List.isPrefixOf_iff_prefix] at opens ⊢
      obtain ⟨tail, same⟩ := opens
      cases spelled : ascii kind.spelling with
      | nil => exact List.nil_prefix
      | cons byte bytes =>
        rw [spelled, List.cons_append] at same
        obtain ⟨rfl, rfl⟩ := List.cons.inj same
        have cut : (bytes ++ tail).take (kind.spelling.length - 1) = bytes := by
          rw [← length, spelled, List.length_cons, Nat.add_sub_cancel, List.take_left]
        exact ⟨[], (List.append_nil _).trans (congrArg (List.cons byte) cut.symm)⟩
    have again : TokenKind.symbols.find? (fun kind' => (ascii kind'.spelling).isPrefixOf
        (first :: rest.take (kind.spelling.length - 1))) = some kind := by
      refine List.find?_eq_some_iff_append.mpr ⟨own, before, after, symbols, fun other member => ?_⟩
      have refused := others other member
      rw [Bool.not_eq_true'] at refused ⊢
      exact Bool.eq_false_iff.mpr fun opens => Bool.eq_false_iff.mp refused (shorter opens)
    dsimp only
    rw [again]

/-- What decides of a symbol is its first byte and the one after it. -/
theorem ofSymbol_congr (first : UInt8) {rest others : Bytes} (head : rest.head? = others.head?) :
    ofSymbol first rest = ofSymbol first others := by
  have short : ∀ kind ∈ TokenKind.symbols, (ascii kind.spelling).length ≤ 2 := by decide
  have same : ∀ kind ∈ TokenKind.symbols, (ascii kind.spelling).isPrefixOf (first :: rest) =
      (ascii kind.spelling).isPrefixOf (first :: others) := by
    intro kind member
    have length := short kind member
    generalize ascii kind.spelling = spelling at length ⊢
    match spelling, length with
    | [], _ => rfl
    | [_], _ => rfl
    | [byte, next], _ =>
      cases rest <;> cases others <;> cases head <;> rfl
  unfold ofSymbol
  rw [List.find?_congr same]

/-- A byte that opens a gap goes on with no symbol. -/
theorem ofSymbol_gap (first : UInt8) {others : Bytes}
    (gap : ∀ byte ∈ others.head?, ¬Byte.IsSolid byte) :
    ofSymbol first others = ofSymbol first [] := by
  have solid : ∀ kind ∈ TokenKind.symbols, ∀ byte ∈ (ascii kind.spelling)[1]?,
      Byte.IsSolid byte := by decide +kernel
  have same : ∀ kind ∈ TokenKind.symbols, (ascii kind.spelling).isPrefixOf (first :: others) =
      (ascii kind.spelling).isPrefixOf [first] := by
    intro kind member
    have next := solid kind member
    generalize ascii kind.spelling = spelling at next ⊢
    match spelling, others with
    | [], _ => rfl
    | [_], [] => rfl
    | [_], _ :: _ => rfl
    | _ :: _ :: _, [] => rfl
    | byte :: second :: _, other :: _ =>
      have differ : (second == other) = false :=
        beq_eq_false_iff_ne.mpr fun same => gap other rfl (same ▸ next second rfl)
      show (byte == first && (second == other && _)) = (byte == first && false)
      rw [differ, Bool.false_and]
  unfold ofSymbol
  rw [List.find?_congr same]

/-- After a token stands what does not belong to it: it begins like what stood there before, or
with a byte that opens a gap. -/
def Parts (others left : Bytes) : Prop :=
  others.head? = left.head? ∨ ∀ byte ∈ others.head?, ¬Byte.IsSolid byte

/-- A run of bytes of one class ends where it did. -/
theorem takeWhile_of_parts {test : UInt8 → Bool} (solid : ∀ byte, test byte = true →
    Byte.IsSolid byte) {rest others : Bytes} (parts : Parts others (rest.dropWhile test)) :
    (rest.takeWhile test ++ others).takeWhile test = rest.takeWhile test := by
  refine (span_append (fun byte member => List.mem_takeWhile_imp member) fun byte head => ?_).1
  rcases parts with same | gap
  · exact head_dropWhile test rest byte (same ▸ head)
  · exact Bool.eq_false_iff.mpr fun holds => gap byte head (solid byte holds)

theorem ofSymbol_append (first : UInt8) {rest others : Bytes}
    (parts : Parts others (rest.drop ((ofSymbol first rest).length - 1))) :
    ofSymbol first (rest.take ((ofSymbol first rest).length - 1) ++ others) =
      ofSymbol first rest := by
  have own := ofSymbol_take first rest
  have whole := List.take_append_drop ((ofSymbol first rest).length - 1) rest
  -- Either the symbol takes the byte after its first, or nothing but the first.
  cases taken : rest.take ((ofSymbol first rest).length - 1) with
  | nil =>
    rw [taken] at own whole
    rw [List.nil_append] at whole ⊢
    rw [whole] at parts
    rcases parts with same | gap
    · exact ofSymbol_congr first same
    · exact (ofSymbol_gap first gap).trans own
  | cons byte bytes =>
    rw [taken] at whole
    refine ofSymbol_congr first ?_
    rw [← whole]
    rfl

/-- A token is read off the bytes that it takes. What stands after these may be replaced, and only
a string that is not closed goes on with it. -/
theorem read_append (first : UInt8) {rest others : Bytes}
    (ends : (read first rest).closed = true ∨ others = [])
    (parts : Parts others (rest.drop ((read first rest).length - 1))) :
    read first (rest.take ((read first rest).length - 1) ++ others) = read first rest := by
  have run {test : UInt8 → Bool} (solid : ∀ byte, test byte = true → Byte.IsSolid byte)
      (parts : Parts others (rest.drop ((first :: rest.takeWhile test).length - 1))) :
      (rest.take ((first :: rest.takeWhile test).length - 1) ++ others).takeWhile test =
        rest.takeWhile test := by
    rw [List.length_cons, Nat.add_sub_cancel] at parts ⊢
    have left : (rest.takeWhile test ++ rest.dropWhile test).drop (rest.takeWhile test).length =
        rest.dropWhile test := List.drop_left
    rw [List.takeWhile_append_dropWhile] at left
    rw [left] at parts
    rw [← List.prefix_iff_eq_take.mp (List.takeWhile_prefix test), takeWhile_of_parts solid parts]
  by_cases newline : first = Byte.newline
  · rw [read, if_pos newline, read, if_pos newline]
  by_cases name : Byte.opensName first = true
  · have reads (rest : Bytes) : read first rest = ofName first rest := by
      rw [read, if_neg newline, if_pos name]
    rw [reads] at parts
    rw [reads, reads]
    unfold ofName
    dsimp only
    rw [run (fun _ continues => Byte.isSolid_of continues (by decide)) parts]
  by_cases digit : Byte.isDigit first = true
  · have reads (rest : Bytes) : read first rest = ofNumber first rest := by
      rw [read, if_neg newline, if_neg name, if_pos digit]
    rw [reads] at parts
    rw [reads, reads]
    unfold ofNumber
    dsimp only
    rw [run (fun _ digit => Byte.isSolid_of_isDigit digit) parts]
  by_cases quote : first = Byte.quote ∨ first = Byte.doubleQuote
  · have reads (rest : Bytes) : read first rest = ofString first rest [] 1 := by
      rw [read, if_neg newline, if_neg name, if_neg digit, if_pos quote]
    rw [reads] at ends
    rw [reads, reads, ofString_append _ _ _ _ ends]
  · have reads (rest : Bytes) : read first rest = ofSymbol first rest := by
      rw [read, if_neg newline, if_neg name, if_neg digit, if_neg quote]
    rw [reads] at parts
    rw [reads, reads, ofSymbol_append _ parts]

/-- A token is read off the bytes that it takes, when nothing else is there. -/
theorem read_take (first : UInt8) (rest : Bytes) :
    read first (rest.take ((read first rest).length - 1)) = read first rest := by
  have alone := @read_append first rest [] (.inr rfl) (.inr nofun)
  rw [List.append_nil] at alone
  exact alone

end Lexeme

/-! ### Words and where they stand -/

/-- A token that starts after some bytes of a source has the line and the column of that place. -/
theorem placed_between (before after : Bytes) (last : Position) {kind : TokenKind} {text : Bytes}
    {value : Int64} {closed : Bool} :
    Token.Placed ⟨kind, text, value, Span.between (Position.start.advance before) last, closed⟩
      (before ++ after) := by
  have start := Position.offset_advance_start before
  have taken : (before ++ after).take (Position.start.advance before).offset = before := by
    rw [start, List.take_left]
  obtain ⟨lines, line, whole, begins, inside, column⟩ := Position.column_advance before
  refine ⟨taken.symm ▸ Position.line_advance Position.start before, lines, line,
    taken.trans whole, begins, inside, ?_⟩
  have length : before.length - lines.length = line.length := by
    rw [whole, List.length_append, Nat.add_sub_cancel_left]
  show (Position.start.advance before).column =
    (Position.start.advance before).offset - lines.length + 1
  rw [start, length, column]

/-- A token was read at a place in a source, from a byte that opens no gap. -/
structure Token.ReadAt (token : Token) (before : Bytes) (byte : UInt8) (rest : Bytes) : Prop where
  solid : Byte.IsSolid byte
  same : token = (Lexeme.read byte rest).token (Position.start.advance before)
    ((Position.start.advance before).advance
      ((byte :: rest).take (Lexeme.read byte rest).length))

namespace Token.ReadAt

variable {token : Token} {before rest : Bytes} {byte : UInt8}

theorem start (read : token.ReadAt before byte rest) : token.span.start = before.length := by
  rw [read.same]
  exact Position.offset_advance_start before

theorem stop (read : token.ReadAt before byte rest) : token.span.stop =
    before.length + ((byte :: rest).take (Lexeme.read byte rest).length).length := by
  rw [read.same]
  refine (Position.offset_advance _ _).trans ?_
  rw [Position.offset_advance_start]

/-- What a token takes up is what is read as the token. -/
theorem taken (read : token.ReadAt before byte rest) : token.taken (before ++ byte :: rest) =
    (byte :: rest).take (Lexeme.read byte rest).length := by
  have whole : byte :: rest = (byte :: rest).take (Lexeme.read byte rest).length ++
      rest.drop ((Lexeme.read byte rest).length - 1) :=
    (Lexeme.take_append_drop byte rest).symm
  unfold Token.taken
  rw [read.start, read.stop]
  nth_rewrite 1 [whole]
  rw [stretch_append]

/-- What a token takes up begins with its first byte. -/
theorem taken_eq_cons (read : token.ReadAt before byte rest) :
    token.taken (before ++ byte :: rest) =
      byte :: rest.take ((Lexeme.read byte rest).length - 1) := by
  obtain ⟨length, more⟩ := Nat.exists_eq_add_one_of_ne_zero
    (Nat.ne_of_gt (Lexeme.length_read_pos byte rest))
  rw [read.taken, more, List.take_succ_cons, Nat.add_sub_cancel]

theorem lt (read : token.ReadAt before byte rest) : token.span.start < token.span.stop := by
  have pos := Lexeme.length_read_pos byte rest
  rw [read.start, read.stop, List.length_take, List.length_cons]
  omega

theorem placed (read : token.ReadAt before byte rest) : token.Placed (before ++ byte :: rest) := by
  rw [read.same]
  exact placed_between before (byte :: rest) _

theorem text (read : token.ReadAt before byte rest) (noString : token.kind ≠ .string)
    (noNewline : token.kind ≠ .newline) : token.text =
      if token.kind = .identifier then (token.taken (before ++ byte :: rest)).take nameLimit
      else token.taken (before ++ byte :: rest) := by
  rw [read.taken]
  obtain ⟨-, same⟩ := read
  subst same
  exact ((Lexeme.text_read byte rest).resolve_left noString).resolve_left noNewline

end Token.ReadAt

namespace Tokens

/-- A source that opens no gap begins with the token that is read there. -/
theorem words_of_solid {byte : UInt8} (solid : Byte.IsSolid byte) (rest : Bytes) :
    ∃ token words, (ofSource (byte :: rest)).words = token :: words ∧
      token.ReadAt [] byte rest := by
  have none := gap_solid solid rest
  have cuts := cuts_ofSource (byte :: rest)
  generalize ofSource (byte :: rest) = tokens at cuts ⊢
  cases cuts with
  | ended nothing =>
    rw [none] at nothing
    cases nothing
  | token found stops =>
    rw [none] at found
    cases found
    subst stops
    rw [none]
    exact ⟨_, _, rfl, solid, rfl⟩

/-- Reading what a token takes up gives the token again. -/
theorem reread {token : Token} {before rest : Bytes} {byte : UInt8}
    (read : token.ReadAt before byte rest) :
    ∃ again words, (ofSource (token.taken (before ++ byte :: rest))).words = again :: words ∧
      again.kind = token.kind ∧ again.text = token.text ∧ again.value = token.value := by
  rw [read.taken_eq_cons]
  obtain ⟨again, words, found, first⟩ := words_of_solid read.solid
    (rest.take ((Lexeme.read byte rest).length - 1))
  refine ⟨again, words, found, ?_⟩
  rw [first.same, read.same, Lexeme.read_take]
  exact ⟨rfl, rfl, rfl⟩

/-- Induction along the cutting of a source. What was passed, what stands between and what is left
make up the source, and every token is read where it stands. -/
theorem Cuts.along {motive : Bytes → Bytes → Tokens → Prop}
    (ended : ∀ passed between, IsGap between [] →
      motive passed between ⟨[], finishAt (Position.start.advance (passed ++ between))⟩)
    (word : ∀ passed between byte rest (token : Token) tokens, IsGap between (byte :: rest) →
      token.ReadAt (passed ++ between) byte rest →
        motive (passed ++ between ++ (byte :: rest).take (Lexeme.read byte rest).length)
          (rest.drop ((Lexeme.read byte rest).length - 1)) tokens →
            motive passed (between ++ byte :: rest) ⟨token :: tokens.words, tokens.finish⟩)
    {position : Position} {source : Bytes} {tokens : Tokens} (cuts : Cuts position source tokens)
    {passed : Bytes} (place : position = Position.start.advance passed) :
    motive passed source tokens := by
  induction cuts generalizing passed with
  | @ended position source nothing =>
    have whole := gap_append_drop source
    have gapped := (isGap_gap source).1
    rw [nothing, List.append_nil] at whole
    rw [nothing, whole] at gapped
    rw [place, whole, ← Position.advance_append]
    exact ended passed source gapped
  | @token position last source rest byte tokens found stops _ hypothesis =>
    have whole := gap_append_drop source
    obtain ⟨gapped, solid⟩ := isGap_gap source
    rw [found] at whole gapped solid
    have first : position.advance (gap source) = Position.start.advance (passed ++ gap source) := by
      rw [place, Position.advance_append]
    rw [first] at stops ⊢
    have later := hypothesis (stops.trans (Position.advance_append _ _ _).symm)
    generalize gap source = between at whole gapped first stops later ⊢
    subst whole
    exact word passed between byte rest _ tokens gapped ⟨solid byte rfl, stops ▸ rfl⟩ later

/-- Every word of a source was read somewhere in it. -/
theorem readAt_of_mem_words {source : Bytes} {token : Token}
    (member : token ∈ (ofSource source).words) :
    ∃ before byte rest, source = before ++ byte :: rest ∧ token.ReadAt before byte rest := by
  refine Cuts.along (motive := fun passed source tokens => ∀ token ∈ tokens.words,
    ∃ before byte rest, passed ++ source = before ++ byte :: rest ∧ token.ReadAt before byte rest)
    ?_ ?_ (cuts_ofSource source)
    (Position.advance_nil _).symm token member
  · exact fun _ _ _ _ member => absurd member List.not_mem_nil
  · intro passed between byte rest token tokens _ read hypothesis
    refine List.forall_mem_cons.mpr ⟨⟨_, byte, rest, (List.append_assoc ..).symm, read⟩,
      fun token member => ?_⟩
    obtain ⟨before, first, others, same, later⟩ := hypothesis token member
    refine ⟨before, first, others, ?_, later⟩
    rw [← same, List.append_assoc (passed ++ between), Lexeme.take_append_drop, List.append_assoc]

/-- A gap stands in a source between what was passed and what comes after it. -/
theorem gap_between (passed : Bytes) {between after : Bytes} (gap : IsGap between after) :
    IsGap (stretch (passed ++ (between ++ after)) passed.length (passed ++ between).length)
      ((passed ++ (between ++ after)).drop (passed ++ between).length) := by
  rw [List.length_append, stretch_append, ← List.length_append, ← List.append_assoc,
    List.drop_left]
  exact gap

theorem tiles_ofSource (source : Bytes) : Tiles source 0 (ofSource source).toList := by
  refine Cuts.along (motive := fun passed source tokens =>
    Tiles (passed ++ source) passed.length tokens.toList) ?_ ?_ (cuts_ofSource source)
      (Position.advance_nil _).symm
  · intro passed between gap
    have stands := Position.offset_advance_start (passed ++ between)
    have between := gap_between passed gap
    rw [List.append_nil] at between
    refine ⟨?_, Nat.le_refl _, ?_, stands⟩
    · show _ ≤ (Position.start.advance _).offset
      rw [stands, List.length_append]
      exact Nat.le_add_right _ _
    · show IsGap (stretch _ _ (Position.start.advance _).offset)
        (List.drop (Position.start.advance _).offset _)
      rw [stands]
      exact between
  · intro passed between byte rest token tokens gap read hypothesis
    have whole : passed ++ between ++ (byte :: rest).take (Lexeme.read byte rest).length ++
        rest.drop ((Lexeme.read byte rest).length - 1) = passed ++ (between ++ byte :: rest) := by
      rw [List.append_assoc (passed ++ between), Lexeme.take_append_drop, List.append_assoc]
    rw [whole, List.length_append, ← read.stop] at hypothesis
    refine ⟨?_, Nat.le_of_lt read.lt, ?_, hypothesis⟩
    · rw [read.start, List.length_append]
      exact Nat.le_add_right _ _
    · rw [read.start]
      exact gap_between passed gap

end Tokens

/-! ### Tokens on demand -/

/-- A scanner between two tokens: where it stands, and what is left of the source there. -/
structure Scanner where
  position : Position
  left : Bytes

namespace Scanner

/-- A scanner before the first token. -/
def ofSource (source : Bytes) : Scanner :=
  ⟨Position.start, source⟩

/-- The next token, which is the end of the input where nothing is left, and the scanner after
it. -/
def next (scanner : Scanner) : Token × Scanner :=
  let first := scanner.position.advance (gap scanner.left)
  match scanner.left.drop (gap scanner.left).length with
  | [] => (Tokens.finishAt first, ⟨first, []⟩)
  | byte :: rest =>
    let lexeme := Lexeme.read byte rest
    let last := first.advance ((byte :: rest).take lexeme.length)
    (lexeme.token first last, ⟨last, rest.drop (lexeme.length - 1)⟩)

/-- The token that a scanner gives when it has given so many others. -/
def token (scanner : Scanner) : Nat → Token
  | 0 => scanner.next.1
  | count + 1 => scanner.next.2.token count

/-- At the end of the input a scanner gives that end again and again. -/
theorem token_of_nil (position : Position) (count : Nat) :
    token ⟨position, []⟩ count = Tokens.finishAt position := by
  induction count with
  | zero => rfl
  | succ count hypothesis => exact hypothesis

/-- On demand a scanner gives the tokens into which the source is cut, and then its end. -/
theorem token_of_cuts {position : Position} {source : Bytes} {tokens : Tokens}
    (cuts : Tokens.Cuts position source tokens) (count : Nat) :
    token ⟨position, source⟩ count = tokens.words[count]?.getD tokens.finish := by
  induction cuts generalizing count with
  | @ended position source nothing =>
    have ends : next ⟨position, source⟩ = (Tokens.finishAt (position.advance (gap source)),
        ⟨position.advance (gap source), []⟩) := by
      unfold next
      dsimp only
      rw [nothing]
    cases count with
    | zero =>
      rw [token, ends]
      rfl
    | succ count =>
      rw [token, ends]
      exact token_of_nil _ count
  | @token position last source rest byte tokens found stops _ hypothesis =>
    have reads : next ⟨position, source⟩ = ((Lexeme.read byte rest).token
        (position.advance (gap source)) last,
          ⟨last, rest.drop ((Lexeme.read byte rest).length - 1)⟩) := by
      unfold next
      dsimp only
      rw [found, stops]
    cases count with
    | zero =>
      rw [token, reads]
      rfl
    | succ count =>
      rw [token, reads]
      exact hypothesis count

end Scanner

/-- The tokens of a source tile it. They come in order and without overlap, with only blanks and
comments between them, up to the end of the input, which stands after the last byte. Each has the
line and the column of its first byte. Every other token than the end takes up some bytes, and
unless it is a string or a newline, these are its text, of which only so much counts in a name.
Reading these bytes alone gives first the same kind, text and value. A scanner that is asked for one
token after another gives just these, and then the end of the input however often it is asked. -/
theorem tokens_tile_source (source : Bytes) :
    let tokens := Tokens.ofSource source
    Tiles source 0 tokens.toList ∧
    (∀ token ∈ tokens.toList, token.Placed source) ∧
    (∀ token ∈ tokens.words,
      token.kind ≠ .endOfInput ∧ token.span.start < token.span.stop ∧
      (token.kind ≠ .string → token.kind ≠ .newline →
        token.text = if token.kind = .identifier then (token.taken source).take nameLimit
          else token.taken source) ∧
      ∃ again words, (Tokens.ofSource (token.taken source)).words = again :: words ∧
        again.kind = token.kind ∧ again.text = token.text ∧ again.value = token.value) ∧
    (tokens.finish.kind = .endOfInput ∧ tokens.finish.span.start = source.length ∧
      tokens.finish.span.stop = source.length) ∧
    ∀ count, (Scanner.ofSource source).token count = tokens.words[count]?.getD tokens.finish := by
  intro tokens
  have cuts := Tokens.cuts_ofSource source
  have finish : tokens.finish = Tokens.finishAt (Position.start.advance source) := cuts.finish
  have offset := Position.offset_advance_start source
  refine ⟨Tokens.tiles_ofSource source, fun token member => ?_, fun token member => ?_, ?_,
    Scanner.token_of_cuts cuts⟩
  · rcases List.mem_append.mp member with word | last
    · obtain ⟨before, byte, rest, rfl, read⟩ := Tokens.readAt_of_mem_words word
      exact read.placed
    · have placed : Token.Placed (Tokens.finishAt (Position.start.advance source)) (source ++ []) :=
        placed_between source [] (Position.start.advance source)
      rw [List.append_nil, ← finish] at placed
      rw [List.mem_singleton.mp last]
      exact placed
  · obtain ⟨before, byte, rest, rfl, read⟩ := Tokens.readAt_of_mem_words member
    exact ⟨(Tokens.kind_ofSource _).2 token member, read.lt, read.text, Tokens.reread read⟩
  · rw [finish]
    exact ⟨rfl, offset, offset⟩

/-- After a string that holds a newline and a comment, an operator of two bytes is read where it
stands, and read again by itself. -/
theorem operator_after_string_is_placed :
    let source := ascii "a = 'b\nc' # d\n e**2"
    let tokens := Tokens.ofSource source
    let power : Token := ⟨.doubleStar, ascii "**", 0, ⟨16, 18, 3, 3⟩, true⟩
    power ∈ tokens.words ∧ power.taken source = ascii "**" ∧
    Tiles source 0 tokens.toList ∧ power.Placed source ∧
    (∃ again words, (Tokens.ofSource (ascii "**")).words = again :: words ∧
      again.kind = .doubleStar ∧ again.text = ascii "**" ∧ again.value = 0) ∧
    (Scanner.ofSource source).token 100 = tokens.finish := by
  intro source tokens power
  have member : power ∈ tokens.words := by decide +kernel
  obtain ⟨tiles, placed, words, -, scanner⟩ := tokens_tile_source source
  obtain ⟨-, -, -, reread⟩ := words power member
  have taken : power.taken source = ascii "**" := by decide +kernel
  rw [taken] at reread
  refine ⟨member, taken, tiles, placed power (List.mem_append_left _ member), reread, ?_⟩
  rw [scanner 100, show tokens.words[100]? = none by decide +kernel]
  rfl

end Scriptling
