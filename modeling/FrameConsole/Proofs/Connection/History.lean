import FrameConsole.Connection
import Mathlib.Data.List.DropRight
import Mathlib.Tactic.Lemma

/-!
# Histories of a connection

What happens on a connection, seen from outside: openings, frames, closings and drains, each with
the answer that was given. What the connection holds at any moment is said of the history alone,
without reference to a state: the address of the last opening that no closing follows, and the
frames accepted since the later of the last opening and the last drain.

## Main definitions

* `FrameConsole.Connection.Call`, `FrameConsole.Connection.Event` — what is asked of a connection,
  and what happens.
* `FrameConsole.Connection.openUrl`, `FrameConsole.Connection.pending` — the open address and the
  waiting frames after a history.
* `FrameConsole.Connection.Justified` — the answer that an event gives is the right one after its
  past.
* `FrameConsole.Connection.Matches` — a connection holds what its history says.

## Main results

* `FrameConsole.Connection.Matches.serve`, `FrameConsole.Connection.Matches.drain` — each call keeps
  a connection and its history together, and makes a justified event.
* `FrameConsole.Connection.Justifies.pending_of_kept` — a frame waits until a drain or a closing.
* `FrameConsole.Connection.pending_of_cut` — nothing from before a drain, an opening or a closing
  waits.
-/

namespace FrameConsole.Connection

/-! ## Calls and events -/

/-- What can be asked of a connection, apart from draining it. -/
inductive Call where
  /-- To open a session on an address. -/
  | connect (url : String)
  /-- To send a frame. -/
  | send (frame : Frame)
  /-- To close the session, if there is one. -/
  | close
  deriving DecidableEq, Repr

/-- What a connection does when it is asked. -/
def serve (c : Connection) : Call → Except CommandError Connection
  | .connect url => c.connect url
  | .send frame => c.send frame
  | .close => .ok c.close

/-- What happens on a connection. -/
inductive Event where
  /-- A session is opened on an address. -/
  | opened (url : String)
  /-- A session is not opened. -/
  | openRefused (url : String) (e : ConsoleError)
  /-- A frame is accepted. -/
  | accepted (frame : Frame)
  /-- A frame is not accepted. -/
  | sendRefused (frame : Frame) (e : ConsoleError)
  /-- There is no session from here on. -/
  | torn
  /-- Frames are drained. -/
  | drained (frames : List Frame)
  deriving DecidableEq, Repr

/-- The event that a call and its answer make. -/
def Call.event : Call → Except ConsoleError Unit → Event
  | .connect url, .ok () => .opened url
  | .connect url, .error e => .openRefused url e
  | .send frame, .ok () => .accepted frame
  | .send frame, .error e => .sendRefused frame e
  | .close, _ => .torn

/-! ## What a history says -/

/-- The session that an event leaves, where it opens or closes one. -/
def Event.session? : Event → Option (Option String)
  | .opened url => some (some url)
  | .torn => some none
  | _ => none

/-- The frame that an event adds to those waiting. -/
def Event.frame? : Event → Option Frame
  | .accepted frame => some frame
  | _ => none

/-- Whether frames are counted anew from an event on: it is an opening or a drain. -/
def Event.restarts : Event → Bool
  | .opened _ => true
  | .drained _ => true
  | _ => false

/-- Whether an event takes waiting frames away: it is a closing or a drain. -/
def Event.removes : Event → Bool
  | .torn => true
  | .drained _ => true
  | _ => false

/-- Whether an event is the refusal of a call. -/
def Event.refuses : Event → Bool
  | .openRefused _ _ => true
  | .sendRefused _ _ => true
  | _ => false

/-- The address of the open session after a history: that of the last opening, unless a closing
follows it. -/
def openUrl (history : List Event) : Option String :=
  (history.reverse.findSome? Event.session?).getD none

/-- The frames that some events accept, in order. -/
def accepted (events : List Event) : List Frame :=
  events.filterMap Event.frame?

/-- The frames that wait after a history: those accepted since the later of the last opening and the
last drain if a session is open, and none if not. -/
def pending (history : List Event) : List Frame :=
  if (openUrl history).isSome then accepted (history.rtakeWhile fun e => !e.restarts) else []

/-- The answer that an event gives is the right one after its past. An opening succeeds if no
session is open, and is refused with the address of the open session otherwise, which leaves that
session and its frames as they are. A frame is accepted if a session is open, and refused
otherwise. A drain gives what waits. -/
def Justified (past : List Event) : Event → Prop
  | .opened _ => openUrl past = none
  | .openRefused url e =>
    ∃ current, openUrl past = some current ∧ e = .command (.alreadyConnected current) ∧
      openUrl (past ++ [.openRefused url e]) = openUrl past ∧
      pending (past ++ [.openRefused url e]) = pending past
  | .accepted _ => (openUrl past).isSome
  | .sendRefused _ e => openUrl past = none ∧ e = .command .notConnected
  | .torn => True
  | .drained frames => frames = pending past

/-- All events of a history give the right answers. -/
def Justifies (history : List Event) : Prop :=
  ∀ past e future, history = past ++ e :: future → Justified past e

/-! ## One more event -/

/-- An event that opens or closes a session decides whether one is open. -/
lemma openUrl_concat (past : List Event) (e : Event) :
    openUrl (past ++ [e]) = e.session?.getD (openUrl past) := by
  cases h : e.session? <;> simp [openUrl, h]

/-- An accepted frame comes last. -/
lemma accepted_concat (events : List Event) (e : Event) :
    accepted (events ++ [e]) = accepted events ++ e.frame?.toList := by
  cases h : e.frame? <;> simp [accepted, h]

/-- The frames that wait after one more event: none behind an opening, a closing or a drain, and
otherwise one more if the event accepts a frame. -/
lemma pending_concat (past : List Event) (e : Event) :
    pending (past ++ [e]) =
      if e.restarts ∨ e.removes then []
      else if (openUrl past).isSome then pending past ++ e.frame?.toList else [] := by
  cases e <;>
    by_cases isOpen : (openUrl past).isSome <;>
    simp [pending, openUrl_concat, Event.session?, Event.restarts, Event.removes, Event.frame?,
      accepted, isOpen]

/-- A refusal changes neither the open session nor the frames that wait. -/
lemma unchanged_of_refuses (past : List Event) {e : Event} (refuses : e.refuses = true) :
    openUrl (past ++ [e]) = openUrl past ∧ pending (past ++ [e]) = pending past := by
  have idle : e.session? = none ∧ e.restarts = false ∧ e.removes = false ∧ e.frame? = none := by
    cases e with
    | openRefused | sendRefused => exact ⟨rfl, rfl, rfl, rfl⟩
    | _ => cases refuses
  obtain ⟨session, restarts, removes, frame⟩ := idle
  rw [openUrl_concat, pending_concat, session, restarts, removes, frame]
  by_cases isOpen : (openUrl past).isSome
  · simp [isOpen]
  · simp [isOpen, pending]

/-- A history gives the right answers with one more event if it does without it and the event gives
the right one. -/
lemma Justifies.concat {history : List Event} {e : Event} (h : Justifies history)
    (justified : Justified history e) : Justifies (history ++ [e]) := by
  intro past e' future split
  rcases List.eq_nil_or_concat future with rfl | ⟨front, last, rfl⟩
  · obtain ⟨rfl, same⟩ := List.append_inj' split rfl
    obtain rfl := List.head_eq_of_cons_eq same
    exact justified
  · rw [List.concat_eq_append, ← List.cons_append, ← List.append_assoc] at split
    exact h past e' front (List.append_inj_left' split rfl)

/-- The past of a history gives the right answers if the history does. -/
lemma Justifies.of_append {past future : List Event} (h : Justifies (past ++ future)) :
    Justifies past := by
  rintro before e behind rfl
  exact h before e (behind ++ future) (by simp)

/-! ## What waits -/

/-- A frame that is accepted waits until a drain or a closing, behind the frames that waited before
it and in front of those accepted after it.

**Proof sketch.** Induction on the events behind it, the last one taken off each time. The session
stays open, so that no opening is among them. -/
lemma Justifies.pending_of_kept {before behind : List Event} {frame : Frame}
    (h : Justifies (before ++ .accepted frame :: behind))
    (kept : ∀ e ∈ behind, e.removes = false) :
    (openUrl (before ++ .accepted frame :: behind)).isSome ∧
      pending (before ++ .accepted frame :: behind) =
        pending before ++ frame :: accepted behind := by
  induction behind using List.reverseRecOn with
  | nil =>
    have isOpen : (openUrl before).isSome := h before (.accepted frame) [] rfl
    rw [openUrl_concat, pending_concat]
    simp [Event.session?, Event.restarts, Event.removes, Event.frame?, isOpen, accepted]
  | append_singleton behind e ih =>
    have split : before ++ .accepted frame :: (behind ++ [e]) =
        before ++ .accepted frame :: behind ++ [e] := by simp
    rw [split] at h ⊢
    obtain ⟨isOpen, waiting⟩ := ih h.of_append fun e' mem => kept e' (by simp [mem])
    have stays : e.removes = false := kept e (by simp)
    have justified := h _ e [] rfl
    have restarts : e.restarts = false := by
      cases e with
      | opened url =>
        rw [Justified] at justified
        rw [justified] at isOpen
        cases isOpen
      | drained frames => cases stays
      | _ => rfl
    have session : e.session? = none := by
      cases e with
      | opened url => cases restarts
      | torn => cases stays
      | _ => rfl
    rw [openUrl_concat, pending_concat, session, accepted_concat]
    simp [restarts, stays, isOpen, waiting]

/-- Where a session is open, an opening is in the history. -/
lemma exists_opened_of_openUrl {history : List Event} {url : String}
    (h : openUrl history = some url) : .opened url ∈ history := by
  unfold openUrl at h
  cases found : history.reverse.findSome? Event.session? with
  | none => simp [found] at h
  | some session =>
    rw [found, Option.getD_some] at h
    subst h
    obtain ⟨e, mem, he⟩ := List.exists_of_findSome?_eq_some found
    cases e <;> simp [Event.session?] at he
    subst he
    exact List.mem_reverse.1 mem

/-- What comes before a closing does not matter for the open session. -/
lemma openUrl_append_torn (past behind : List Event) :
    openUrl (past ++ .torn :: behind) = openUrl behind := by
  simp only [openUrl, List.reverse_append, List.reverse_cons, List.findSome?_append]
  cases behind.reverse.findSome? Event.session? <;> simp [Event.session?]

/-- The run at the end of a list lies behind any element that does not belong to it. -/
lemma rtakeWhile_suffix_of_mem {p : Event → Bool} {past behind : List Event} {e x : Event}
    (mem : x ∈ e :: behind) (stops : p x = false) :
    (past ++ e :: behind).rtakeWhile p <:+ behind := by
  have whole := List.rtakeWhile_suffix p (past ++ e :: behind)
  rcases List.suffix_or_suffix_of_suffix whole (List.suffix_append past (e :: behind)) with h | h
  · rcases List.suffix_cons_iff.1 h with same | h
    · rw [← same] at mem
      simp [List.mem_rtakeWhile_imp mem] at stops
    · exact h
  · simp [List.mem_rtakeWhile_imp (h.mem mem)] at stops

/-- Behind an opening, a closing or a drain, only frames accepted since then wait.

**Proof sketch.** An opening and a drain start the count anew. Behind a closing a session is open
only if there is another opening, which does so. -/
lemma pending_of_cut (past behind : List Event) {e : Event} (cut : e.restarts ∨ e.removes) :
    ∃ window, window <:+ behind ∧ pending (past ++ e :: behind) = accepted window := by
  unfold pending
  split
  · rename_i isOpen
    refine ⟨_, ?_, rfl⟩
    rcases cut with restarts | removes
    · exact rtakeWhile_suffix_of_mem List.mem_cons_self (by simp [restarts])
    · cases e with
      | torn =>
        rw [openUrl_append_torn] at isOpen
        obtain ⟨url, hurl⟩ := Option.isSome_iff_exists.1 isOpen
        exact rtakeWhile_suffix_of_mem (List.mem_cons_of_mem _ (exists_opened_of_openUrl hurl)) rfl
      | drained frames => exact rtakeWhile_suffix_of_mem List.mem_cons_self rfl
      | _ => cases removes
  · exact ⟨[], List.nil_suffix, rfl⟩

/-! ## Connections and their histories -/

/-- A connection holds what its history says: the open address and the waiting frames. -/
structure Matches (c : Connection) (history : List Event) : Prop where
  /-- The open session is that of the last opening. -/
  url : c.url? = openUrl history
  /-- The frames of the session are those that wait. -/
  outbox : c.outbox = pending history

/-- A connection without a session has an empty history. -/
lemma Matches.nil : Matches {} [] :=
  ⟨rfl, rfl⟩

/-- A refusal keeps a connection and its history together. -/
lemma Matches.refused {c : Connection} {history : List Event} {e : Event} (h : c.Matches history)
    (refused : e.refuses = true) : c.Matches (history ++ [e]) := by
  obtain ⟨sameUrl, samePending⟩ := unchanged_of_refuses history refused
  exact ⟨h.url.trans sameUrl.symm, h.outbox.trans samePending.symm⟩

/-- Opening a session keeps a connection and its history together, and the answer is right. -/
lemma Matches.connect {c : Connection} {history : List Event} (h : c.Matches history)
    (url : String) :
    match c.connect url with
    | .ok c' => c'.Matches (history ++ [.opened url]) ∧ Justified history (.opened url)
    | .error e =>
      c.Matches (history ++ [.openRefused url (.command e)]) ∧
        Justified history (.openRefused url (.command e)) := by
  rcases c with ⟨_ | ⟨current, waiting⟩⟩
  · have closed : openUrl history = none := h.url.symm
    refine ⟨⟨?_, ?_⟩, closed⟩
    · rw [openUrl_concat]
      rfl
    · rw [pending_concat]
      rfl
  · have isOpen : openUrl history = some current := h.url.symm
    obtain ⟨sameUrl, samePending⟩ := unchanged_of_refuses history
      (rfl : (Event.openRefused url (.command (.alreadyConnected current))).refuses = true)
    exact ⟨h.refused rfl, current, isOpen, rfl, sameUrl, samePending⟩

/-- Sending a frame keeps a connection and its history together, and the answer is right. -/
lemma Matches.send {c : Connection} {history : List Event} (h : c.Matches history)
    (frame : Frame) :
    match c.send frame with
    | .ok c' => c'.Matches (history ++ [.accepted frame]) ∧ Justified history (.accepted frame)
    | .error e =>
      c.Matches (history ++ [.sendRefused frame (.command e)]) ∧
        Justified history (.sendRefused frame (.command e)) := by
  rcases c with ⟨_ | ⟨current, waiting⟩⟩
  · have closed : openUrl history = none := h.url.symm
    exact ⟨h.refused rfl, closed, rfl⟩
  · have isOpen : openUrl history = some current := h.url.symm
    have waits : pending history = waiting := h.outbox.symm
    refine ⟨⟨?_, ?_⟩, ?_⟩
    · rw [openUrl_concat, isOpen]
      rfl
    · rw [pending_concat, isOpen, waits]
      rfl
    · rw [Justified, isOpen, Option.isSome_some]

/-- Closing the session keeps a connection and its history together. -/
lemma Matches.close (c : Connection) (history : List Event) :
    c.close.Matches (history ++ [.torn]) := by
  constructor
  · rw [openUrl_concat]
    rfl
  · rw [pending_concat]
    rfl

/-- A call that is granted keeps a connection and its history together, and so does one that is
refused; the answer is the right one either way. -/
lemma Matches.serve {c : Connection} {history : List Event} (h : c.Matches history)
    (call : Call) :
    match c.serve call with
    | .ok c' =>
      c'.Matches (history ++ [call.event (.ok ())]) ∧ Justified history (call.event (.ok ()))
    | .error e =>
      c.Matches (history ++ [call.event (.error (.command e))]) ∧
        Justified history (call.event (.error (.command e))) := by
  cases call with
  | connect url => exact h.connect url
  | send frame => exact h.send frame
  | close => exact ⟨Matches.close c history, trivial⟩

/-- A drain keeps a connection and its history together, and gives what waits. -/
lemma Matches.drain {c : Connection} {history : List Event} (h : c.Matches history) :
    c.drain.Matches (history ++ [.drained c.outbox]) ∧ Justified history (.drained c.outbox) := by
  refine ⟨⟨?_, ?_⟩, h.outbox⟩
  · have same : openUrl (history ++ [.drained c.outbox]) = openUrl history := openUrl_concat _ _
    rw [same, ← h.url]
    rcases c with ⟨_ | session⟩ <;> rfl
  · rw [pending_concat]
    rcases c with ⟨_ | session⟩ <;> rfl

end FrameConsole.Connection
