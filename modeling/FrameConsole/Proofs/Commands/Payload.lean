import FrameConsole.Proofs.Evaluation.Splice
import FrameConsole.Proofs.Prompt.Taking
import FrameConsole.Proofs.Text.Utf8

/-!
# Payloads arrive as they are

On the way from a line to the queue of a session a payload is split off behind the name of its command,
read as a template, evaluated and, as a text, decoded. A text whose backslashes and dollar signs are
escaped comes through all of this unchanged, and so do bytes that are written as escapes. What a
template gives arrives in a text message if it is well-formed, and in no other case.

## Main definitions

* `FrameConsole.Console.queued` — a console after a message was sent.

## Main results

* `FrameConsole.Prompt.silent_eq_queued` — payloads arrive as they are.
-/

namespace FrameConsole

open Grammar

variable {α : Type}

/-! ## Commands -/

/-- A console after a message was sent on a session: the frame is the last of the queue, and a line
about it the last of the transcript. -/
def Console.queued (s : Console α) (session : Session) (frame : Frame) (line : String) : Console α :=
  { s with
    connection := ⟨some { session with outbox := session.outbox ++ [frame] }⟩
    transcript := s.transcript ++ [⟨.sent, line⟩] }

/-- On an open session a frame is sent and logged. -/
lemma Command.transmit_eq_queued {s : Console α} {session : Session}
    (opened : s.connection.session = some session) (frame : Frame) (line : String) :
    Command.transmit frame line s = (.ok (), s.queued session frame line) := by
  simp only [Command.transmit, Connection.send, opened]
  rfl

/-- A line names a command between its first character and its first space. -/
lemma Prompt.silent_named (p : Prompt α) (c : Char) {name : String} (free : ' ' ∉ name.toList)
    (parameter : String) (s : Console α) :
    p.silent (String.singleton c ++ (name ++ " " ++ parameter)) s = p.runCommand name parameter s := by
  rw [Prompt.silent, withoutTrigger_singleton_append, Prompt.run, splitCommand_eq_iff.2 (.space free)]

section

variable {settings : Settings} {s : Console α} {session : Session} {source : String} {bytes : Bytes}

/-- What a source gives is sent as a text message, as the text that shows it. -/
lemma Prompt.runCommand_send (opened : s.connection.session = some session)
    (evaluated : s.scope.evaluate source = .ok bytes) :
    Prompt.runCommand { registry := .standard, settings := settings } "send" source s =
      (.ok (), s.queued session (.text (Utf8.decodeLossy bytes)) (Utf8.decodeLossy bytes)) := by
  have found : (Registry.standard : Registry α).find? "send" = some .sendText := rfl
  have ran : Command.sendText.run (.binary bytes) s = _ :=
    Command.transmit_eq_queued opened (.text (Utf8.decodeLossy bytes)) (Utf8.decodeLossy bytes)
  rw [Prompt.runCommand_of_evaluate found rfl evaluated, Prompt.perform, ran]

/-- So it is by a line that names the command. -/
lemma Prompt.silent_send (opened : s.connection.session = some session)
    (evaluated : s.scope.evaluate source = .ok bytes) :
    Prompt.silent { registry := .standard, settings := settings } ("/send " ++ source) s =
      (.ok (), s.queued session (.text (Utf8.decodeLossy bytes)) (Utf8.decodeLossy bytes)) := by
  have line : "/send " ++ source = String.singleton '/' ++ ("send" ++ " " ++ source) := by
    rw [← String.toList_inj]
    simp
  rw [line, Prompt.silent_named _ _ (by decide), Prompt.runCommand_send opened evaluated]

/-- What a source gives is sent as a binary message. -/
lemma Prompt.silent_binary (opened : s.connection.session = some session)
    (evaluated : s.scope.evaluate source = .ok bytes) :
    Prompt.silent { registry := .standard, settings := settings } ("/binary " ++ source) s =
      (.ok (), s.queued session (.binary bytes) (binaryLine bytes)) := by
  have found : (Registry.standard : Registry α).find? "binary" = some .sendBinary := rfl
  have line : "/binary " ++ source = String.singleton '/' ++ ("binary" ++ " " ++ source) := by
    rw [← String.toList_inj]
    simp
  have ran : Command.sendBinary.run (.binary bytes) s = _ :=
    Command.transmit_eq_queued opened (.binary bytes) (binaryLine bytes)
  rw [line, Prompt.silent_named _ _ (by decide), Prompt.runCommand_of_evaluate found rfl evaluated,
    Prompt.perform, ran]

end

/-- **Payloads arrive as they are.** In every state with an open session, an escaped text is queued as
that text and logged as it is, bytes written as escapes are queued as these bytes, and what any source
gives is queued as a text, which has the same bytes exactly if they are well-formed. -/
theorem Prompt.silent_eq_queued (settings : Settings) (s : Console α) (session : Session)
    (opened : s.connection.session = some session) :
    let p : Prompt α := { registry := .standard, settings := settings }
    (∀ text : String, p.silent ("/send " ++ escapedText text) s =
        (.ok (), s.queued session (.text text) text)) ∧
      (∀ (source : String) (bytes : Bytes), ByteEscapes source.toList bytes →
        p.silent ("/binary " ++ source) s =
          (.ok (), s.queued session (.binary bytes) (binaryLine bytes))) ∧
      ∀ (source : String) (bytes : Bytes), s.scope.evaluate source = .ok bytes →
        ∃ text, p.silent ("/send " ++ source) s = (.ok (), s.queued session (.text text) text) ∧
          (Utf8.encode text = bytes ↔ bytes.toByteArray.validateUTF8 = true) := by
  intro p
  refine ⟨fun text => ?_, fun source bytes spelled => ?_, fun source bytes evaluated => ?_⟩
  · rw [Prompt.silent_send opened (s.scope.evaluate_escapedText text), Utf8.decodeLossy_encode]
  · exact Prompt.silent_binary opened (s.scope.evaluate_byteEscapes spelled)
  · exact ⟨_, Prompt.silent_send opened evaluated, Utf8.encode_decodeLossy_iff⟩

/-- A text with spaces on both ends, a reference, a backslash, a line end and a letter beyond ASCII; two
bytes in digits of both cases; and a byte that no text has. -/
theorem Prompt.silent_eq_queued_awkward :
    let session : Session := ⟨"ws://host", []⟩
    let s : Console Unit := { Console.fresh 0 .empty () with connection := ⟨some session⟩ }
    let p : Prompt Unit := { registry := .standard }
    p.silent "/send   \\$\x7bx\x7d\\\\\né " s =
        (.ok (), s.queued session (.text "  $\x7bx\x7d\\\né ") "  $\x7bx\x7d\\\né ") ∧
      p.silent "/binary \\xFe\\x0A" s =
        (.ok (), s.queued session (.binary [0xFE, 0x0A]) "<2B> fe0a") ∧
      ∃ text, p.silent "/send \\xfe" s = (.ok (), s.queued session (.text text) text) ∧
        Utf8.encode text ≠ [0xFE] := by
  intro session s p
  obtain ⟨texts, binaries, sources⟩ := Prompt.silent_eq_queued {} s session rfl
  refine ⟨?_, ?_, ?_⟩
  · have written : "/send   \\$\x7bx\x7d\\\\\né " = "/send " ++ escapedText "  $\x7bx\x7d\\\né " := by
      decide
    rw [written]
    exact texts _
  · have high : Numeral IsHexDigit 16 ['F', 'e'] (0xFE : UInt8).toNat :=
      (Numeral.nil.snoc (by decide : IsHexDigit 'F' 15)).snoc (by decide : IsHexDigit 'e' 14)
    have low : Numeral IsHexDigit 16 ['0', 'A'] (0x0A : UInt8).toNat :=
      (Numeral.nil.snoc (by decide : IsHexDigit '0' 0)).snoc (by decide : IsHexDigit 'A' 10)
    have line : binaryLine [0xFE, 0x0A] = "<2B> fe0a" := by decide
    have written : "\\xFe\\x0A".toList =
        '\\' :: 'x' :: ['F', 'e'] ++ ('\\' :: 'x' :: ['0', 'A'] ++ []) := by decide
    have spelled : ByteEscapes "\\xFe\\x0A".toList [0xFE, 0x0A] := by
      rw [written]
      exact .cons rfl high (.cons rfl low .nil)
    rw [← line]
    exact binaries "\\xFe\\x0A" _ spelled
  · have evaluated : s.scope.evaluate "\\xfe" = .ok [0xFE] :=
      s.scope.evaluate_byteEscapes (byteEscapes_render [0xFE])
    obtain ⟨text, sent, same⟩ := sources _ _ evaluated
    exact ⟨text, sent, fun h => absurd (same.1 h) (by decide)⟩

end FrameConsole
