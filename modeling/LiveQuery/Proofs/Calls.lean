import LiveQuery.Proofs.Hidden

/-!
# Calls do not look at sockets

What a caller does, and the time that passes, neither reads nor changes the sockets: with other
sockets the same happens (`Client.perform_withLines`). Only turns of agents and what the other end
does concern sockets, and of the latter each event concerns one (`Event.line?`).
-/

namespace LiveQuery

namespace Switchboard

/-- The same with other lines. -/
def withLines (sb : Switchboard) (lines : List Line) : Switchboard := { sb with lines }

end Switchboard

namespace Client

/-- The same with other lines. -/
def withLines (c : Client) (lines : List Line) : Client := c.mapBoard (·.withLines lines)

variable (c : Client) (lines : List Line)

/-- With other sockets the same happens, unless an agent has its turn or the event is about a
socket. -/
theorem perform_withLines {e : Event} (he : e.isTurn = false) (hline : e.line? = none) :
    (c.withLines lines).perform e = (c.perform e).withLines lines :=
  perform_remap (F := fun _ => lines) Switchboard.unasked_id (fun _ => rfl) rfl he hline

/-- Calls and the time that passes leave the sockets as they are. -/
theorem lines_perform {e : Event} (he : e.isTurn = false) (hline : e.line? = none) :
    (c.perform e).board.lines = c.board.lines := by
  have hsame : c.perform e = (c.perform e).withLines c.board.lines :=
    c.perform_withLines c.board.lines he hline
  rw [hsame]
  rfl

/-- What is done to one line is done to no other. -/
theorem line_modifyLine_cases (s k : Nat) (f : Line → Line) :
    (c.modifyLine s f).board.line k = c.board.line k ∨
      s = k ∧ (c.modifyLine s f).board.line k = f (c.board.line k) := by
  show (c.board.lines.modify s f)[k]?.getD {} = c.board.line k ∨
    s = k ∧ (c.board.lines.modify s f)[k]?.getD {} = f (c.board.line k)
  by_cases hs : s = k
  · subst hs
    rw [List.getElem?_modify_eq]
    unfold Switchboard.line
    cases c.board.lines[s]? with
    | none => exact Or.inl rfl
    | some l => exact Or.inr ⟨rfl, rfl⟩
  · rw [List.getElem?_modify_ne _ _ hs]
    exact Or.inl rfl

/-- Short of a turn the client keeps its end of every socket, a server that is gone stays gone, and
only a fault makes sends fail. -/
theorem line_perform {e : Event} (he : e.isTurn = false) (k : Nat) :
    ((c.perform e).board.line k).pair.client = (c.board.line k).pair.client ∧
    ((c.board.line k).pair.server = false → ((c.perform e).board.line k).pair.server = false) ∧
    (e.isFault = false →
      ((c.perform e).board.line k).sendFault = (c.board.line k).sendFault) := by
  -- what an event does to the line that it is about
  have hone (s : Nat) (f : Line → Line)
      (hperform : c.perform e = c ∨ c.perform e = c.modifyLine s f)
      (hf : ∀ l, (f l).pair.client = l.pair.client ∧
        (l.pair.server = false → (f l).pair.server = false) ∧
        (e.isFault = false → (f l).sendFault = l.sendFault)) :
      ((c.perform e).board.line k).pair.client = (c.board.line k).pair.client ∧
      ((c.board.line k).pair.server = false → ((c.perform e).board.line k).pair.server = false) ∧
      (e.isFault = false →
        ((c.perform e).board.line k).sendFault = (c.board.line k).sendFault) := by
    rcases hperform with h | h
    · rw [h]
      exact ⟨rfl, id, fun _ => rfl⟩
    · rw [h]
      rcases c.line_modifyLine_cases s k f with hline | ⟨-, hline⟩
      · rw [hline]
        exact ⟨rfl, id, fun _ => rfl⟩
      · rw [hline]
        exact hf _
  have hperform : c.perform e = c ∨ c.perform e = c.undergo e := by
    unfold perform
    split
    · exact Or.inr rfl
    · exact Or.inl rfl
  cases hline : e.line? with
  | none =>
    have hsame : (c.perform e).board.line k = c.board.line k := by
      unfold Switchboard.line
      rw [c.lines_perform he hline]
    rw [hsame]
    exact ⟨rfl, id, fun _ => rfl⟩
  | some s =>
    cases e with
    | serverSend s frame =>
      refine hone s _ hperform fun l => ?_
      unfold SocketPair.serverSend
      split <;> exact ⟨rfl, id, fun _ => rfl⟩
    | serverClose s frame =>
      refine hone s _ hperform fun l => ⟨?_, fun _ => rfl, fun _ => rfl⟩
      unfold SocketPair.serverClose SocketPair.serverSend
      split <;> rfl
    | serverDrop s => exact hone s _ hperform fun l => ⟨rfl, fun _ => rfl, fun _ => rfl⟩
    | failReceive s doing => exact hone s _ hperform fun l => ⟨rfl, id, fun _ => rfl⟩
    | failSends s fault => exact hone s _ hperform fun l => ⟨rfl, id, nofun⟩
    | _ => cases hline

end Client

end LiveQuery
