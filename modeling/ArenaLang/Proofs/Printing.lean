import ArenaLang.Native.Print
import ArenaLang.OutputStream
import ArenaLang.Proofs.Accesses
import Mathlib.Data.List.Infix

namespace ArenaLang

def Answer.taken (offered : List UInt8) : Answer → List UInt8
  | .accepted count => offered.take count
  | .failed _ => []

def Attempt.taken (offered : List UInt8) : Attempt → List UInt8
  | .answered answer => answer.taken offered
  | .interrupted _ => []

def Writer.Keeps {σ : Type} [Writer σ] (bytes : σ → List UInt8) : Prop :=
  ∀ offered output, bytes (Writer.write offered output).2 =
    bytes output ++ (Writer.write offered output).1.taken offered

theorem Writer.Keeps.offer {σ : Type} [Writer σ] {bytes : σ → List UInt8} (keeps : Writer.Keeps bytes)
    (offered : List UInt8) (output : σ) :
    bytes (Writer.offer offered output).2 = bytes output ++ (Writer.offer offered output).1.taken offered := by
  fun_induction Writer.offer offered output with
  | case1 output answer after answered =>
      have kept := keeps offered output
      rw [answered] at kept
      exact kept
  | case2 output reason after interrupted ih =>
      have kept := keeps offered output
      rw [interrupted, Attempt.taken, List.append_nil] at kept
      rw [ih, kept]

namespace OutputStream

def taken (stream : OutputStream) : List UInt8 := (if stream.buffered then stream.kept else stream.written).toList

theorem keeps : Writer.Keeps taken := by
  intro offered stream
  show taken (stream.write offered).2 = _ ++ (stream.write offered).1.taken offered
  by_cases buffered : stream.buffered
  · simp [write, taken, buffered, Attempt.taken, Answer.taken]
  · rw [write, if_neg buffered]
    cases counted : stream.interrupts with
    | succ interrupts => simp [taken, buffered, Attempt.taken]
    | zero =>
        simp only [answer]
        cases stream.capacityFor offered.length with
        | none => cases stream.acceptsNothing <;> simp [Attempt.taken, Answer.taken]
        | some count => simp [taken, buffered, Attempt.taken, Answer.taken]

end OutputStream

namespace Script

variable {σ : Type} [Writer σ]

def accepted : Script → σ → List UInt8
  | .done _, _ => []
  | .attempt bytes next, output =>
      let (attempted, output) := Writer.write bytes output
      attempted.taken bytes ++ accepted (next attempted) output
  | .offer bytes next, output =>
      let (answer, output) := Writer.offer bytes output
      answer.taken bytes ++ accepted (next answer) output
  | .flush next, output =>
      let (answer, output) := Writer.flush output
      accepted (next answer) output
  | .report _ next, output => accepted next output

theorem run_keeps {bytes : σ → List UInt8} (keeps : Writer.Keeps bytes) {script : Script}
    (unflushing : script.Unflushing) (output : σ) :
    bytes (script.run output).output = bytes output ++ script.accepted output := by
  induction script generalizing output with
  | done value => exact (List.append_nil _).symm
  | attempt offered next ih => rw [run, accepted, ih _ (unflushing _), keeps, List.append_assoc]
  | offer offered next ih => rw [run, accepted, ih _ (unflushing _), keeps.offer, List.append_assoc]
  | flush next => exact unflushing.elim
  | report diagnostic next ih => exact ih unflushing output

/-- How a script writes some bytes: it goes on with an answer, which is success exactly if the writer
accepted them all. -/
structure Writes (bytes : List UInt8) (script : (Except String Unit → Script) → Script) (output : σ)
    (answer : Except String Unit) (after : σ) (written : List UInt8) : Prop where
  front : written <+: bytes
  whole : answer = .ok () ↔ written = bytes
  run : ∀ next, (script next).run output = (next answer).run after
  accepted : ∀ next, (script next).accepted output = written ++ (next answer).accepted after

theorem writeAll_writes (bytes : List UInt8) (output : σ) :
    ∃ answer after written, Writes bytes (writeAll bytes) output answer after written := by
  cases bytes with
  | nil =>
      refine ⟨.ok (), output, [], List.prefix_rfl, by simp, fun next => ?_, fun next => ?_⟩
      · rw [writeAll]
      · rw [writeAll]
        rfl
  | cons byte rest =>
      rcases offered : Writer.offer (byte :: rest) output with ⟨⟨_ | count⟩ | reason, after⟩
      · refine ⟨.error nothingAccepted, after, [], List.nil_prefix, by simp, fun next => ?_, fun next => ?_⟩
        · rw [writeAll, Script.run, offered]
        · rw [writeAll, Script.accepted, offered]
          rfl
      · obtain ⟨answer, last, written, writes⟩ := writeAll_writes (rest.drop count) after
        -- What was taken is in front of all that the rest of the loop writes.
        have split : byte :: rest = (byte :: rest).take (count + 1) ++ rest.drop count :=
          (List.take_append_drop (count + 1) (byte :: rest)).symm
        refine ⟨answer, last, (byte :: rest).take (count + 1) ++ written, ?_, ?_, fun next => ?_, fun next => ?_⟩
        · conv_rhs => rw [split]
          exact (List.prefix_append_right_inj _).mpr writes.front
        · conv_rhs => rhs; rw [split]
          rw [List.append_cancel_left_eq]
          exact writes.whole
        · rw [writeAll, Script.run, offered, ← writes.run]
        · rw [writeAll, Script.accepted, offered, List.append_assoc, ← writes.accepted]
          rfl
      · refine ⟨.error reason, after, [], List.nil_prefix, by simp, fun next => ?_, fun next => ?_⟩
        · rw [writeAll, Script.run, offered]
        · rw [writeAll, Script.accepted, offered]
          rfl
termination_by bytes.length
decreasing_by simp only [List.length_drop, List.length_cons]; omega

theorem writeLine_writes (text : String) (output : σ) :
    ∃ answer after written, Writes (utf8 text ++ utf8 "\n") (writeLine text) output answer after written := by
  obtain ⟨answer, middle, front, first⟩ := writeAll_writes (utf8 text) output
  cases answer with
  | error reason =>
      refine ⟨.error reason, middle, front, first.front.trans (List.prefix_append _ _), ?_, fun next => ?_,
        fun next => ?_⟩
      · constructor
        · intro success
          cases success
        · intro all
          have short := first.front.length_le
          rw [all, List.length_append] at short
          have ends : (utf8 "\n").length = 1 := rfl
          omega
      · rw [writeLine, writeText, first.run]
      · rw [writeLine, writeText, first.accepted]
  | ok _ =>
      obtain rfl : front = utf8 text := first.whole.mp rfl
      obtain ⟨answer, after, rest, second⟩ := writeAll_writes (utf8 "\n") middle
      refine ⟨answer, after, utf8 text ++ rest, (List.prefix_append_right_inj _).mpr second.front, ?_,
        fun next => ?_, fun next => ?_⟩
      · rw [List.append_cancel_left_eq]
        exact second.whole
      · rw [writeLine, writeText, first.run, writeText, second.run]
      · rw [writeLine, writeText, first.accepted, writeText, second.accepted, List.append_assoc]

theorem writeAll_unflushing {next : Except String Unit → Script} (unflushing : ∀ answer, (next answer).Unflushing)
    (bytes : List UInt8) : (writeAll bytes next).Unflushing := by
  cases bytes with
  | nil =>
      rw [writeAll]
      exact unflushing _
  | cons byte rest =>
      rw [writeAll]
      intro answer
      rcases answer with ⟨_ | count⟩ | reason
      · exact unflushing _
      · exact writeAll_unflushing unflushing (rest.drop count)
      · exact unflushing _
termination_by bytes.length
decreasing_by simp only [List.length_drop, List.length_cons]; omega

theorem writeLine_unflushing {next : Except String Unit → Script} (unflushing : ∀ answer, (next answer).Unflushing)
    (text : String) : (writeLine text next).Unflushing := by
  apply writeAll_unflushing
  intro answer
  cases answer with
  | error reason => exact unflushing _
  | ok _ => exact writeAll_unflushing unflushing _

end Script

theorem utf8_append (s t : String) : utf8 (s ++ t) = utf8 s ++ utf8 t := by
  show (s ++ t).toByteArray.data.toList = _
  rw [String.toByteArray_append, ByteArray.data_append, Array.toList_append]
  rfl

namespace Native

variable {σ : Type} [Writer σ]

theorem print_of_other {args : Args} (other : ∀ s, args.values ≠ [.text s]) :
    ∃ message, print args = Script.fail message := by
  unfold print
  split
  · exact ⟨_, rfl⟩
  · rename_i one
    obtain ⟨value, single⟩ := List.length_eq_one_iff.mp (Decidable.not_not.mp one)
    rw [Args.value, single]
    cases value with
    | nothing => exact ⟨_, rfl⟩
    | number n => exact ⟨_, rfl⟩
    | text s => exact absurd single (other s)

theorem print_of_text {args : Args} {s : String} (text : args.values = [.text s]) :
    print args = Script.writeLine s fun
      | .error reason => Script.fail (args.name ++ " failed to write output: " ++ reason)
      | .ok () => .done .nothing := by
  unfold print
  rw [Args.value, text]
  rfl

theorem print_unflushing (args : Args) : (print args).Unflushing := by
  unfold print
  split
  · trivial
  · split
    · trivial
    · apply Script.writeLine_unflushing
      intro answer
      cases answer <;> trivial

theorem print_line {args : Args} {s : String} (text : args.values = [.text s]) (output : σ) :
    ((print args).run output).value = .nothing ∧ (print args).accepted output <+: utf8 (s ++ "\n") ∧
      (((print args).run output).reported = [] ↔ (print args).accepted output = utf8 (s ++ "\n")) ∧
      ((print args).accepted output ≠ utf8 (s ++ "\n") → ∃ reason,
        ((print args).run output).reported = [.error (args.name ++ " failed to write output: " ++ reason)]) := by
  obtain ⟨answer, after, written, writes⟩ := Script.writeLine_writes s output
  rw [print_of_text text, writes.run, writes.accepted, utf8_append]
  cases answer with
  | ok _ =>
      have all := writes.whole.mp rfl
      simp only [Script.run, Script.accepted, List.append_nil]
      exact ⟨trivial, writes.front, iff_of_true trivial all, fun part => absurd all part⟩
  | error reason =>
      have part : written ≠ utf8 s ++ utf8 "\n" := fun all => nomatch writes.whole.mpr all
      simp only [Script.fail, Script.run, Script.accepted, List.append_nil]
      exact ⟨trivial, writes.front, iff_of_false (List.cons_ne_nil _ _) part, fun _ => ⟨reason, rfl⟩⟩

end Native

/-- Over any writer, `print` has no value. Given one text, it gets the front of its line written, and
reports once if that is not all; given anything else, it reports once and writes nothing. -/
theorem print_writes_its_line_or_reports {σ : Type} [Writer σ] (args : Args) (output : σ) :
    ((Native.print args).run output).value = .nothing ∧
      (∀ s, args.values = [.text s] →
        (Native.print args).accepted output <+: utf8 (s ++ "\n") ∧
        (((Native.print args).run output).reported = [] ↔ (Native.print args).accepted output = utf8 (s ++ "\n")) ∧
        ((Native.print args).accepted output ≠ utf8 (s ++ "\n") → ∃ reason,
          ((Native.print args).run output).reported = [.error (args.name ++ " failed to write output: " ++ reason)])) ∧
      ((∀ s, args.values ≠ [.text s]) → (Native.print args).accepted output = [] ∧
        ((Native.print args).run output).output = output ∧
        ∃ message, ((Native.print args).run output).reported = [.error message]) ∧
      ∀ bytes : σ → List UInt8, Writer.Keeps bytes →
        bytes ((Native.print args).run output).output = bytes output ++ (Native.print args).accepted output := by
  have value : ((Native.print args).run output).value = .nothing := by
    by_cases text : ∃ s, args.values = [.text s]
    · obtain ⟨s, text⟩ := text
      exact (Native.print_line text output).1
    · obtain ⟨message, same⟩ := Native.print_of_other (not_exists.mp text)
      rw [same]
      rfl
  refine ⟨value, fun s text => (Native.print_line text output).2, fun other => ?_,
    fun bytes keeps => Script.run_keeps keeps (Native.print_unflushing args) output⟩
  obtain ⟨message, same⟩ := Native.print_of_other other
  rw [same]
  exact ⟨rfl, rfl, message, rfl⟩

/-- A stream that is full in the middle of a character. -/
theorem print_writes_its_line_or_reports_cut :
    let full : OutputStream := { OutputStream.unbounded with limit := some 2, chunk := some 1, reason := "full" }
    let script := Native.print ⟨"print", [.text "aé"]⟩
    script.accepted full = [0x61, 0xC3] ∧ script.accepted full <+: utf8 ("aé" ++ "\n") ∧
      (script.run full).output.taken = [0x61, 0xC3] ∧
      (script.run full).reported = [.error "print failed to write output: full"] := by
  intro full script
  obtain ⟨_, line, _, keeps⟩ := print_writes_its_line_or_reports ⟨"print", [.text "aé"]⟩ full
  have cut : script.accepted full = [0x61, 0xC3] := by decide +kernel
  have reported : (script.run full).reported = [.error "print failed to write output: full"] := by decide +kernel
  have taken := keeps OutputStream.taken OutputStream.keeps
  refine ⟨cut, (line "aé" rfl).1, ?_, reported⟩
  rw [taken]
  exact cut

end ArenaLang
