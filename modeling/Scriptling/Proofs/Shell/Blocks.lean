/-
This file proves that a shell is no more than a session that runs whole blocks.
The lines that are fed to it are cut at the blank ones, and the blocks that come
of this, but for the empty ones, are run one after another. The session of the
shell is the one that these runs leave, and only its diagnostic stream has one
more line after every block that cannot be read.

What the blocks are is said without the shell, as a property of the lines: those
that ask to leave are left out, and the others are split at the blank ones. The
shell keeps the lines of the block that is still open, the last first, and that is
just what splitting a list does when it goes through it.
-/

import Scriptling.Proofs.Session.Diagnostics
import Scriptling.Shell

namespace Scriptling

/-! ### Calls -/

/-- What a host does with a shell: it feeds a line, or it asks for the waiting lines to be run. -/
inductive ShellCall where
  | feed (line : Bytes)
  | runPending

namespace ShellCall

/-- The text of a line. To ask for the waiting lines is like feeding a blank one. -/
def text : ShellCall → Bytes
  | .feed line => trimLineEnd line
  | .runPending => []

def perform (limits : Limits) : ShellCall → ShellAction LineOutcome
  | .feed line => Shell.feed limits line
  | .runPending => Shell.runPending limits

/-- Only the text of a call matters. -/
theorem perform_eq (limits : Limits) (call : ShellCall) :
    call.perform limits =
      if Shell.asksToQuit call.text then return .quit
      else if call.text.isEmpty then Shell.runPending limits
      else do
        modify fun shell => { shell with pending := call.text :: shell.pending }
        return .buffered := by
  cases call with
  | feed line => rfl
  | runPending => rfl

theorem perform_of_blank (limits : Limits) {call : ShellCall} (blank : call.text = []) :
    call.perform limits = Shell.runPending limits := by
  rw [perform_eq, blank]
  rfl

end ShellCall

namespace Shell

/-- The shell after some calls. -/
def after (limits : Limits) (shell : Shell) (calls : List ShellCall) : Shell :=
  calls.foldl (fun shell call => stateAfter (call.perform limits) shell) shell

/-! ### Blocks -/

/-- The texts of some calls, without those that ask to leave. -/
def texts (calls : List ShellCall) : List Bytes :=
  (calls.map ShellCall.text).filter fun text => !asksToQuit text

/-- The blocks of some calls, of which the last one is still open. -/
def blocks (calls : List ShellCall) : List (List Bytes) :=
  (texts calls).splitOn []

/-- The source of a block: each of its lines and a newline. -/
def blockSource (lines : List Bytes) : Bytes :=
  lines.flatMap fun line => line ++ [Byte.newline]

/-- The sources of those blocks that are complete and not empty. -/
def completed (blocks : List (List Bytes)) : List Bytes :=
  (blocks.dropLast.filter fun lines => !lines.isEmpty).map blockSource

/-- The lines of the block that is still open. -/
def current (blocks : List (List Bytes)) : List Bytes :=
  blocks.getLastD []

end Shell

namespace Session

/-- What has been written to the diagnostic stream. -/
def errors (session : Session) : Bytes :=
  session.world.streams.err.written.bytes

/-- The session after some sources, run one after another. -/
def afterSources (limits : Limits) (session : Session) (sources : List Bytes) : Session :=
  session.afterAll limits (sources.map Request.run)

end Session

namespace Shell

/-- What comes after the messages about a block: one more line if it cannot be read. -/
def remark (source : Bytes) : Bytes :=
  if (Program.ofSource source).isOk then [] else encode (unreadableLine ++ "\n")

/-- What a shell writes to the diagnostic stream when it runs some sources: what each of them writes
when a session runs it, with a remark after it. -/
def transcript (limits : Limits) : Session → List Bytes → Bytes
  | _, [] => []
  | session, source :: rest =>
    let after := session.after limits (.run source)
    after.errors.drop session.errors.length ++ remark source ++ transcript limits after rest

/-- What is said of a block that has been run. -/
def verdict : EStateM.Result Failure Session Unit → LineOutcome
  | .ok .. => .ran
  | .error .. => .failed

/-- What becomes of a call when the lines of the open block are these and a session has run the
blocks before. -/
def expected (limits : Limits) (plain : Session) (lines : List Bytes) (call : ShellCall) :
    LineOutcome :=
  if asksToQuit call.text then .quit
  else if !call.text.isEmpty then .buffered
  else if lines.isEmpty then .empty
  else verdict (Session.run limits (blockSource lines) plain)

theorem expected_of_blank (limits : Limits) (plain : Session) (lines : List Bytes)
    {call : ShellCall} (blank : call.text = []) :
    expected limits plain lines call =
      if lines.isEmpty then .empty else verdict (Session.run limits (blockSource lines) plain) := by
  unfold expected
  rw [blank]
  rfl

theorem runPending_of_nil (limits : Limits) {shell : Shell} (nothing : shell.pending = []) :
    runPending limits shell = .ok .empty shell := by
  unfold runPending
  rw [nothing]
  rfl

/-! ### One call -/

/-- The session of a shell is another one, but for the diagnostic stream. There these bytes have
been written, and these lines wait. -/
structure Refines (plain : Session) (written : Bytes) (lines : List Bytes) (shell : Shell) :
    Prop where
  unfailing : plain.world.streams.Unfailing
  session : shell.session = plain.withDiagnostics shell.session.world.streams.err
  granted : shell.session.world.streams.err.Unfailing
  written : shell.session.errors = written
  pending : shell.pending = lines.reverse

section

variable (limits : Limits) {plain : Session} {written : Bytes} {lines : List Bytes} {shell : Shell}
  (refines : Refines plain written lines shell)

include refines

theorem Refines.source : shell.source = blockSource lines := by
  unfold Shell.source
  rw [refines.pending, List.reverse_reverse]
  rfl

omit refines in
/-- After a run nothing waits, and what the run has written follows what was written before. -/
theorem refines_of_mirrored {next : Session} {later : Sink}
    (mirrored : World.Mirrored plain.errors written next.world later) :
    Refines next (written ++ next.errors.drop plain.errors.length) []
      ⟨next.withDiagnostics later, []⟩ := by
  obtain ⟨unfailing, granted, added, here, there⟩ := mirrored
  have errors : next.errors = plain.errors ++ added := here
  rw [errors, List.drop_left]
  exact ⟨unfailing, rfl, granted, there, rfl⟩

/-- What waits is run, and the session that is left is that of the plain run. -/
theorem Refines.run (source : Bytes) :
    Ends (Session.run limits source) plain
      (fun result after => ∃ later,
        Session.run limits source shell.session = .ok result (after.withDiagnostics later) ∧
          World.Mirrored plain.errors written after.world later)
      fun failure after => failure.IsOwn ∧ ∃ later,
        Session.run limits source shell.session = .error failure (after.withDiagnostics later) ∧
          World.Mirrored plain.errors written after.world later := by
  have mirrored : World.Mirrored plain.errors written plain.world
      shell.session.world.streams.err :=
    ⟨refines.unfailing, refines.granted, [], (List.append_nil _).symm,
      refines.written.trans (List.append_nil _).symm⟩
  rw [refines.session]
  exact (Session.indifferent_run limits source plain _ mirrored).weaken
    (fun _ _ kept => kept.2) fun _ _ cut => cut

/-- The lines that wait are run as a session runs a source, and one more line is written if they
cannot be read. Nothing waits afterwards. -/
theorem Refines.runPending (some : lines ≠ []) :
    let source := blockSource lines
    let next := plain.after limits (.run source)
    let after := Refines next
      (written ++ (next.errors.drop plain.errors.length ++ remark source)) []
    Ends (Shell.runPending limits) shell
      (fun outcome shell => outcome = verdict (Session.run limits source plain) ∧ after shell)
      fun abort shell => abort = .outOfFuel ∧ after shell := by
  intro source next after
  have ends := refines.run limits source
  have waits : shell.pending.isEmpty = false := by simp [refines.pending, some]
  have runs : Session.run limits shell.source shell.session =
      Session.run limits source shell.session := by rw [refines.source]
  unfold Ends Shell.runPending
  simp only [waits, runs]
  cases read : Program.ofSource source with
  | error diagnostics =>
    obtain ⟨last, ended⟩ := Session.run_of_unreadable limits read refines.unfailing
    obtain ⟨-, later, twin, still⟩ := ends.of_error ended
    obtain ⟨sink, granted, unfailing, wrote⟩ :=
      Sink.writeAll_eq_ok still.twin [encode (unreadableLine ++ "\n")]
    have told : Run.onWorld (World.complain [unreadableLine ++ "\n"]) (last.withDiagnostics later) =
        .ok () (last.withDiagnostics sink) := by
      unfold Run.onWorld World.complain Session.withDiagnostics
      simp only [List.map_cons, List.map_nil, granted]
    have remarked : remark source = [encode (unreadableLine ++ "\n")].flatten := by
      unfold remark
      rw [read]
      rfl
    have settled := refines_of_mirrored still
    have first : later.written.bytes = written ++ last.errors.drop plain.errors.length :=
      settled.written
    simp only [twin, told, ended]
    refine ⟨rfl, ?_⟩
    show Refines next (written ++ (next.errors.drop plain.errors.length ++ remark source)) [] _
    rw [show next = last from stateAfter_of_error ended, remarked, ← List.append_assoc, ← first]
    exact ⟨settled.unfailing, rfl, unfailing, wrote, rfl⟩
  | ok program =>
    have silent : remark source = [] := by
      unfold remark
      rw [read]
      rfl
    have settled {last : Session} {later : Sink} (same : next = last)
        (still : World.Mirrored plain.errors written last.world later) :
        after ⟨last.withDiagnostics later, []⟩ := by
      show Refines next (written ++ (next.errors.drop plain.errors.length ++ remark source)) [] _
      rw [silent, List.append_nil, same]
      exact refines_of_mirrored still
    cases ended : Session.run limits source plain with
    | ok _ last =>
      obtain ⟨later, twin, still⟩ := ends.of_ok ended
      simp only [twin]
      exact ⟨rfl, settled (stateAfter_of_ok ended) still⟩
    | error failure last =>
      obtain ⟨allowed, later, twin, still⟩ := ends.of_error ended
      have left := settled (stateAfter_of_error ended) still
      simp only [twin]
      cases failure with
      | unreadable diagnostics =>
        exact absurd ended (Session.run_of_readable limits read plain diagnostics last)
      | aborted abort =>
        cases abort with
        | stepLimit limit span => exact ⟨rfl, left⟩
        | refused fault => exact allowed.elim
        | outOfFuel => exact ⟨rfl, left⟩

theorem Refines.perform_quit {call : ShellCall} (quits : asksToQuit call.text) :
    Ends (call.perform limits) shell
      (fun outcome after => outcome = expected limits plain lines call ∧
        Refines plain written lines after)
      fun _ _ => False := by
  rw [call.perform_eq, if_pos quits]
  unfold expected
  rw [if_pos quits]
  exact ⟨rfl, refines⟩

theorem Refines.perform_line {call : ShellCall} (stays : ¬asksToQuit call.text)
    (some : call.text ≠ []) :
    Ends (call.perform limits) shell
      (fun outcome after => outcome = expected limits plain lines call ∧
        Refines plain written (lines ++ [call.text]) after)
      fun _ _ => False := by
  have filled : call.text.isEmpty = false := by simp [some]
  rw [call.perform_eq, if_neg stays, filled]
  unfold expected
  rw [if_neg stays, filled]
  refine ⟨rfl, refines.unfailing, refines.session, refines.granted, refines.written, ?_⟩
  show call.text :: shell.pending = _
  rw [List.reverse_append, refines.pending]
  rfl

/-- A blank line after another one, or at the start. -/
theorem Refines.perform_blank_of_nil (empty : lines = []) {call : ShellCall}
    (blank : call.text = []) :
    Ends (call.perform limits) shell
      (fun outcome after => outcome = expected limits plain lines call ∧
        Refines plain written [] after)
      fun _ _ => False := by
  subst empty
  rw [call.perform_of_blank limits blank, expected_of_blank limits plain [] blank]
  unfold Ends
  rw [runPending_of_nil limits refines.pending]
  exact ⟨rfl, refines⟩

theorem Refines.perform_blank (some : lines ≠ []) {call : ShellCall} (blank : call.text = []) :
    let next := plain.after limits (.run (blockSource lines))
    let after := Refines next
      (written ++ (next.errors.drop plain.errors.length ++ remark (blockSource lines))) []
    Ends (call.perform limits) shell
      (fun outcome shell => outcome = expected limits plain lines call ∧ after shell)
      fun abort shell => abort = .outOfFuel ∧ after shell := by
  have filled : lines.isEmpty = false := by simp [some]
  rw [call.perform_of_blank limits blank, expected_of_blank limits plain lines blank, filled]
  exact refines.runPending limits some

end

/-! ### Many calls -/

section

variable {blocks : List (List Bytes)} (more : blocks ≠ [])

include more

theorem completed_cons_nil : completed ([] :: blocks) = completed blocks := by
  unfold completed
  rw [List.dropLast_cons_of_ne_nil more]
  rfl

theorem completed_cons {lines : List Bytes} (some : lines ≠ []) :
    completed (lines :: blocks) = blockSource lines :: completed blocks := by
  unfold completed
  rw [List.dropLast_cons_of_ne_nil more, List.filter_cons_of_pos (by simp [some])]
  rfl

theorem current_cons (lines : List Bytes) : current (lines :: blocks) = current blocks := by
  unfold current
  cases blocks with
  | nil => exact absurd rfl more
  | cons next rest => rfl

end

/-- Call after call the session of a shell is what the blocks leave that are complete by then, if
the first of them begins with the lines that wait. -/
theorem Refines.after (limits : Limits) {plain : Session} {written : Bytes} {lines : List Bytes}
    {shell : Shell} (refines : Refines plain written lines shell) (calls : List ShellCall) :
    let blocks := (texts calls).splitOnPPrepend (fun text => text == []) lines.reverse
    Refines (plain.afterSources limits (completed blocks))
      (written ++ transcript limits plain (completed blocks)) (current blocks)
      (shell.after limits calls) := by
  induction calls generalizing plain written lines shell with
  | nil =>
    intro blocks
    have only : blocks = [lines] := congrArg (fun lines => [lines]) lines.reverse_reverse
    rw [only]
    show Refines plain (written ++ []) lines shell
    rw [List.append_nil]
    exact refines
  | cons call rest hypothesis =>
    show Refines _ _ _ ((stateAfter (call.perform limits) shell).after limits rest)
    by_cases quits : asksToQuit call.text
    · have left : texts (call :: rest) = texts rest := by
        unfold texts
        rw [List.map_cons, List.filter_cons_of_neg (by simp [quits])]
      rw [left]
      exact hypothesis (Ends.stateAfter ((refines.perform_quit limits quits).weaken
        (fun _ _ kept => kept.2) fun _ _ failed => failed.elim))
    have kept : texts (call :: rest) = call.text :: texts rest := by
      unfold texts
      rw [List.map_cons, List.filter_cons_of_pos (by simp [quits])]
    rw [kept]
    by_cases blank : call.text = []
    · have more := List.splitOnP_ne_nil (fun text => text == []) (texts rest)
      rw [List.splitOnPPrepend_cons_pos (by simp [blank]), List.reverse_reverse]
      by_cases empty : lines = []
      · have next := hypothesis (Ends.stateAfter ((refines.perform_blank_of_nil limits empty
          blank).weaken (fun _ _ kept => kept.2) fun _ _ failed => failed.elim))
        rw [empty, completed_cons_nil more, current_cons more]
        exact next
      · have next := hypothesis (Ends.stateAfter ((refines.perform_blank limits empty
          blank).weaken (fun _ _ kept => kept.2) fun _ _ cut => cut.2))
        rw [completed_cons more empty, current_cons more]
        dsimp only at next
        rw [List.append_assoc] at next
        exact next
    · rw [List.splitOnPPrepend_cons_neg (by simp [blank])]
      have next := hypothesis (Ends.stateAfter ((refines.perform_line limits quits blank).weaken
        (fun _ _ kept => kept.2) fun _ _ failed => failed.elim))
      rw [List.reverse_append] at next
      exact next

/-- A new shell has run the blocks that are complete. -/
theorem refines_start (limits : Limits) {session : Session}
    (unfailing : session.world.streams.Unfailing) (calls : List ShellCall) :
    Refines (session.afterSources limits (completed (blocks calls)))
      (session.errors ++ transcript limits session (completed (blocks calls)))
      (current (blocks calls)) ((Shell.start session).after limits calls) := by
  have new : Refines session session.errors [] (Shell.start session) :=
    ⟨unfailing, rfl, unfailing.err, rfl, rfl⟩
  exact new.after limits calls

theorem Refines.perform (limits : Limits) {plain : Session} {written : Bytes} {lines : List Bytes}
    {shell : Shell} (refines : Refines plain written lines shell) (call : ShellCall) :
    Ends (call.perform limits) shell
      (fun outcome _ => outcome = expected limits plain lines call)
      fun abort _ => abort = .outOfFuel := by
  by_cases quits : asksToQuit call.text
  · exact (refines.perform_quit limits quits).weaken (fun _ _ kept => kept.1)
      fun _ _ failed => failed.elim
  by_cases blank : call.text = []
  · by_cases empty : lines = []
    · exact (refines.perform_blank_of_nil limits empty blank).weaken (fun _ _ kept => kept.1)
        fun _ _ failed => failed.elim
    · exact (refines.perform_blank limits empty blank).weaken (fun _ _ kept => kept.1)
        fun _ _ cut => cut.1
  · exact (refines.perform_line limits quits blank).weaken (fun _ _ kept => kept.1)
      fun _ _ failed => failed.elim

theorem Refines.prompt {plain : Session} {written : Bytes} {lines : List Bytes} {shell : Shell}
    (refines : Refines plain written lines shell) :
    shell.prompt = if lines.isEmpty then ">>> " else "... " := by
  unfold Shell.prompt
  rw [refines.pending, List.isEmpty_reverse]

/-- Whatever the streams refuse, nothing waits when the waiting lines have been run. -/
theorem pending_runPending (limits : Limits) (shell : Shell) :
    (stateAfter (runPending limits) shell).pending = [] := by
  by_cases nothing : shell.pending = []
  · rw [stateAfter_of_ok (runPending_of_nil limits nothing)]
    exact nothing
  have waits : shell.pending.isEmpty = false := by simp [nothing]
  unfold stateAfter runPending
  simp only [waits]
  cases Session.run limits shell.source shell.session with
  | ok _ session => rfl
  | error failure session =>
    cases failure with
    | unreadable diagnostics =>
      dsimp only
      cases Run.onWorld (World.complain [unreadableLine ++ "\n"]) session with
      | ok _ session => rfl
      | error abort session => rfl
    | aborted abort =>
      cases abort with
      | stepLimit limit span => rfl
      | refused fault => rfl
      | outOfFuel => rfl

end Shell

/-- A shell on streams that refuse nothing is a session that runs whole blocks, whatever lines it
is fed and whenever it is asked to run those that wait. Its session is the one that the complete
blocks leave when they are run as sources one after another, but for the diagnostic stream; there
the same has been written, and one more line after each block that cannot be read. The lines of
the open block wait, and the prompt tells if there are any. Each further call ends as the block
and the session say it must, unless a run lacks fuel. And on any streams, a call that runs the
waiting lines leaves none of them. -/
theorem shell_runs_blocks (limits : Limits) {session : Session}
    (unfailing : session.world.streams.Unfailing) (calls : List ShellCall) :
    let blocks := Shell.blocks calls
    let plain := session.afterSources limits (Shell.completed blocks)
    let shell := (Shell.start session).after limits calls
    shell.session = plain.withDiagnostics shell.session.world.streams.err ∧
    shell.session.errors =
      session.errors ++ Shell.transcript limits session (Shell.completed blocks) ∧
    shell.source = Shell.blockSource (Shell.current blocks) ∧
    (shell.prompt = if (Shell.current blocks).isEmpty then ">>> " else "... ") ∧
    (∀ call : ShellCall, Ends (call.perform limits) shell
      (fun outcome _ => outcome = Shell.expected limits plain (Shell.current blocks) call)
      fun abort _ => abort = .outOfFuel) ∧
    ∀ (shell : Shell) (call : ShellCall), call.text = [] →
      (stateAfter (call.perform limits) shell).pending = [] := by
  intro blocks plain shell
  have refines := Shell.refines_start limits unfailing calls
  refine ⟨refines.session, refines.written, refines.source, refines.prompt,
    refines.perform limits, fun shell call blank => ?_⟩
  rw [call.perform_of_blank limits blank]
  exact Shell.pending_runPending limits shell

/-- A block that cannot be read leaves nothing but its messages, and a line that asks to leave does
not cut the block in which it stands. -/
theorem unreadable_block_is_passed_over :
    let calls : List ShellCall := [.feed (ascii "x = 1"), .feed (ascii ":quit"),
      .feed (ascii "y = x\r\n"), .feed (ascii "\r\n"), .feed (ascii "y = = 2"), .runPending,
      .feed (ascii "x = x + 1")]
    let shell := (Shell.start (Session.start (Streams.reliable []))).after Limits.standard calls
    Shell.completed (Shell.blocks calls) = [ascii "x = 1\ny = x\n", ascii "y = = 2\n"] ∧
    shell.session.global (ascii "y") = .int 1 ∧
    shell.session.errors = encode ("Parse error: expected expression at line 1, got EQ '='\n" ++
      "parse failed\n") ∧
    shell.source = ascii "x = x + 1\n" ∧ shell.prompt = "... " := by
  intro calls shell
  have completed : Shell.completed (Shell.blocks calls) =
      [ascii "x = 1\ny = x\n", ascii "y = = 2\n"] := by decide +kernel
  have current : Shell.current (Shell.blocks calls) = [ascii "x = x + 1"] := by decide +kernel
  have unfailing : (Session.start (Streams.reliable [])).world.streams.Unfailing :=
    Streams.unfailing_reliable []
  obtain ⟨same, errors, source, prompt, -⟩ := shell_runs_blocks Limits.standard unfailing calls
  rw [completed] at same errors
  rw [current] at source prompt
  refine ⟨completed, ?_, ?_, source.trans (by decide +kernel), prompt⟩
  · rw [same, Session.global_withDiagnostics]
    decide +kernel
  · rw [errors]
    decide +kernel

end Scriptling
