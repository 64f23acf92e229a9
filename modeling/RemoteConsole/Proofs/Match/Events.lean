import RemoteConsole.Proofs.Match.Roster
import RemoteConsole.Proofs.Session.Conduct

namespace RemoteConsole

open GameLog (PlayerTag)

/-- Of which kinds the events of a line can be. -/
def GameLog.Entry.kinds : GameLog.Entry → List EventKind
  | .playerEnter .. => [.playerJoin]
  | .playerExit .. => [.playerPart]
  | .playerKick .. => [.playerKick]
  | .teamJoin .. => [.teamChange]
  | .nameChange .. => [.nameChange]
  | .idChange .. => [.idChange]
  | .kill .. => [.kill, .milestone]
  | .death .. => [.death, .milestone]
  | .suicide .. => [.suicide, .milestone]
  | .destroyed .. => [.destroy, .milestone]
  | .captured .. => [.capture, .milestone]
  | .neutralized .. => [.neutralize, .milestone]
  | .deployed .. => [.deploy, .milestone]
  | .disarmed .. => [.disarm, .milestone]
  | .matchStart .. => [.matchStart]
  | .matchEnd .. => [.matchEnd]
  | .chat .. => [.chat]
  | .teamChat .. => [.teamChat]
  | .hostChat .. => [.hostChat]
  | .voteCalled .. => [.voteCall]
  | .voteResults .. => [.voteResult]
  | .voteCancelled .. => [.voteCancel]
  | .mapChanging .. => [.mapChange]
  | .mapLoaded .. => [.mapLoad]
  | .mapStart .. => [.mapStart]
  | .consoleCommand .. => [.consoleCommand]
  | .consoleSubscribed .. => [.consoleSubscribed]
  | .consoleUnsubscribed .. => [.consoleUnsubscribed]
  | .adminLogin .. => [.adminLogin]
  | .adminLogout .. => [.adminLogout]
  | .adminGranted .. => [.adminGrant]
  | .unknown .. => []

namespace Match.Model

section Kinds

variable (now : Instant) (m : Model) {kinds : List EventKind}

theorem forall_kinds_single {event : Event} (h : event.kind ∈ kinds) :
    ∀ told ∈ [event], told.kind ∈ kinds :=
  fun _ htold => List.mem_singleton.1 htold ▸ h

theorem forall_kinds_latch {r : Model × List Event} (h : ∀ event ∈ r.2, event.kind ∈ kinds)
    (hmilestone : .milestone ∈ kinds) (milestone : Milestone) (tag : PlayerTag) :
    ∀ event ∈ (latch now milestone tag r).2, event.kind ∈ kinds := by
  unfold latch
  dsimp only
  split
  · exact h
  · intro event hevent
    rcases List.mem_append.1 hevent with hevent | hevent
    · exact h event hevent
    · rw [List.mem_singleton.1 hevent]
      exact hmilestone

theorem kind_of_mem_apply (entry : GameLog.Entry) :
    ∀ event ∈ (m.apply now entry).2, event.kind ∈ entry.kinds := by
  have hmain {main other : EventKind} : main ∈ [main, other] := List.mem_cons_self
  have hmilestone {main : EventKind} : .milestone ∈ [main, .milestone] :=
    List.mem_cons_of_mem _ (List.mem_singleton_self _)
  cases entry with
  | idChange oldId newId =>
      rw [apply, changeId]
      split
      · exact fun _ hevent => absurd hevent List.not_mem_nil
      · exact forall_kinds_single (List.mem_singleton_self _)
  | kill killer victim damage =>
      refine forall_kinds_latch now (forall_kinds_latch now
        (forall_kinds_latch now ?_ ?_ _ _) ?_ _ _) ?_ _ _
      · exact forall_kinds_single hmain
      all_goals exact hmilestone
  | destroyed kind object killer killerName damage =>
      rw [apply]
      unfold destroyed
      cases killer with
      | none => exact forall_kinds_single hmain
      | some tag => exact forall_kinds_latch now (forall_kinds_single hmain) hmilestone _ tag
  | death tag | suicide tag | captured tag | neutralized tag | deployed tag | disarmed tag =>
      exact forall_kinds_latch now (forall_kinds_single hmain) hmilestone _ tag
  | unknown => exact fun _ hevent => absurd hevent List.not_mem_nil
  | _ => exact forall_kinds_single (List.mem_singleton_self _)

theorem discovered_of_mem_applyTable (t : Table) :
    ∀ event ∈ (m.applyTable now t).2, ∃ p, event = .playerDiscovered p := by
  rcases m.applyTable_cases now t with hroster | ⟨-, hnone⟩
  · rw [hroster]
    unfold applyRoster
    split
    · exact fun _ hevent => absurd hevent List.not_mem_nil
    · exact (discovers_roster now m t).discovered
  · rw [hnone]
    exact fun _ hevent => absurd hevent List.not_mem_nil

end Kinds

def OfMatch (events : List Event) : Prop :=
  ∀ e ∈ events, e.kind.ofSession = false

theorem OfMatch.single {e : Event} (h : e.kind.ofSession = false) : OfMatch [e] :=
  fun _ he => List.mem_singleton.1 he ▸ h

variable (now : Instant) (m : Model)

theorem ofMatch_apply (entry : GameLog.Entry) : OfMatch (m.apply now entry).2 := by
  have hkinds : ∀ kind ∈ entry.kinds, kind.ofSession = false := by
    cases entry <;> simp [GameLog.Entry.kinds, EventKind.ofSession]
  exact fun event hevent => hkinds event.kind (m.kind_of_mem_apply now entry event hevent)

theorem ofMatch_applyTable (t : Table) : OfMatch (m.applyTable now t).2 := by
  intro event hevent
  obtain ⟨p, rfl⟩ := m.discovered_of_mem_applyTable now t event hevent
  rfl

end Match.Model

end RemoteConsole
