import Mathlib.Data.List.Induction
import Mathlib.Data.Nat.Bitwise
import RemoteConsole.Proofs.Dictionary
import RemoteConsole.Proofs.Host.Telling
import RemoteConsole.Proofs.Text.Pieces

namespace RemoteConsole

namespace Ban.Flags

theorem intersects_bot (a : Flags) : a.intersects .bot = a.contains .bot := by
  have hbit : a.bits.toNat &&& 2 ^ 2 = (a.bits.toNat.testBit 2).toNat * 2 ^ 2 :=
    Nat.and_two_pow _ 2
  have hbot : a.bits &&& bot.bits = .ofNat ((a.bits.toNat.testBit 2).toNat * 2 ^ 2) := by
    rw [← hbit, ← UInt16.toNat_inj, UInt16.toNat_and]
    simp [bot]
  rw [intersects, contains, hbot]
  cases a.bits.toNat.testBit 2 <;> rfl

end Ban.Flags

namespace Chat

open Text (FirstWord trim)

/-- The word is one of its triggers, whatever the case. -/
def Command.IsNamed (c : Command) (word : String) : Prop :=
  ∃ trigger ∈ c.triggers, Text.sameLetters trigger word = true

/-- Of the commands that have the word as a trigger the one at this place is the last. -/
structure LastNamed (commands : List Command) (word : String) (i : Nat) (c : Command) : Prop where
  place : commands[i]? = some c
  named : c.IsNamed word
  last : ∀ j (c' : Command), i < j → commands[j]? = some c' → ¬ c'.IsNamed word

section LastNamed

variable {commands : List Command} {newer : Command} {word : String} {i : Nat} {c : Command}

theorem concat_getElem? : (commands ++ [newer])[i]? = some c ↔
    commands[i]? = some c ∨ i = commands.length ∧ c = newer := by
  grind

theorem lastNamed_concat_of_named (h : newer.IsNamed word) :
    LastNamed (commands ++ [newer]) word i c ↔ i = commands.length ∧ c = newer := by
  constructor
  · rintro ⟨hplace, -, hlast⟩
    rcases concat_getElem?.1 hplace with hold | hnew
    · have hi := (List.getElem?_eq_some_iff.1 hold).1
      exact absurd h (hlast _ newer hi (concat_getElem?.2 (.inr ⟨rfl, rfl⟩)))
    · exact hnew
  · rintro ⟨rfl, rfl⟩
    refine ⟨concat_getElem?.2 (.inr ⟨rfl, rfl⟩), h, fun j c' hj hplace => ?_⟩
    have hend := (List.getElem?_eq_some_iff.1 hplace).1
    rw [List.length_append, List.length_singleton] at hend
    omega

theorem lastNamed_concat_of_not (h : ¬ newer.IsNamed word) :
    LastNamed (commands ++ [newer]) word i c ↔ LastNamed commands word i c := by
  constructor
  · rintro ⟨hplace, hnamed, hlast⟩
    rcases concat_getElem?.1 hplace with hold | ⟨-, rfl⟩
    · exact ⟨hold, hnamed, fun j c' hj hplace' =>
        hlast j c' hj (concat_getElem?.2 (.inl hplace'))⟩
    · exact absurd hnamed h
  · rintro ⟨hplace, hnamed, hlast⟩
    refine ⟨concat_getElem?.2 (.inl hplace), hnamed, fun j c' hj hplace' => ?_⟩
    rcases concat_getElem?.1 hplace' with hold | ⟨-, rfl⟩
    · exact hlast j c' hj hold
    · exact h

theorem exists_last_of_isNamed (h : ∃ c ∈ commands, c.IsNamed word) :
    ∃ i c, LastNamed commands word i c := by
  induction commands using List.reverseRecOn with
  | nil =>
      obtain ⟨c, hc, -⟩ := h
      exact absurd hc List.not_mem_nil
  | append_singleton commands newer ih =>
      by_cases hnewer : newer.IsNamed word
      · exact ⟨_, _, (lastNamed_concat_of_named hnewer).2 ⟨rfl, rfl⟩⟩
      · obtain ⟨c, hc, hnamed⟩ := h
        rcases List.mem_append.1 hc with hold | hnew
        · obtain ⟨i, last, hlast⟩ := ih ⟨c, hold, hnamed⟩
          exact ⟨i, last, (lastNamed_concat_of_not hnewer).2 hlast⟩
        · exact absurd (List.mem_singleton.1 hnew ▸ hnamed) hnewer

end LastNamed

theorem lookup_assign (place : Nat) (triggers : List String) (table : List (String × Nat))
    (word : String) : (assign place triggers table).lookup (Text.lowerAscii word) =
      if triggers.any (Text.sameLetters · word) then some place
      else table.lookup (Text.lowerAscii word) := by
  induction triggers generalizing table with
  | nil => rfl
  | cons trigger triggers ih =>
      rw [assign, List.foldl_cons]
      refine (ih _).trans ?_
      rw [lookup_insertPair, List.any_cons]
      by_cases hword : Text.sameLetters trigger word
      · rw [if_pos (Text.lowerAscii_eq_iff.2 hword).symm, hword, Bool.true_or, if_pos rfl, ite_self]
      · have hother : Text.lowerAscii word ≠ Text.lowerAscii trigger :=
          fun h => hword (Text.lowerAscii_eq_iff.1 h.symm)
        rw [if_neg hother, Bool.eq_false_iff.2 hword, Bool.false_or]

namespace Router

theorem commands_foldl_register (commands : List Command) (r : Router) :
    (commands.foldl register r).commands = r.commands ++ commands := by
  induction commands generalizing r with
  | nil => exact (List.append_nil _).symm
  | cons c commands ih =>
      rw [List.foldl_cons, ih, register, List.append_assoc, List.singleton_append]

theorem isNamed_iff {c : Command} {word : String} :
    c.triggers.any (Text.sameLetters · word) = true ↔ c.IsNamed word := by
  rw [List.any_eq_true, Command.IsNamed]

theorem find?_register_of_named {newer : Command} {word : String} (h : newer.IsNamed word)
    (r : Router) : (r.register newer).find? word = some (newer, r.commands.length) := by
  rw [find?, register, lookup_assign, if_pos (isNamed_iff.2 h), Option.bind_some,
    List.getElem?_concat_length, Option.map_some]

theorem find?_register_of_not {newer : Command} {word : String} (h : ¬ newer.IsNamed word)
    (r : Router) : (r.register newer).find? word = r.find? word := by
  rw [find?, register, lookup_assign, if_neg (mt isNamed_iff.1 h), find?]
  cases hplace : r.byTrigger.lookup (Text.lowerAscii word) with
  | none => rfl
  | some place =>
      obtain ⟨_, _, htable, -⟩ := List.lookup_eq_some_iff.1 hplace
      have hlt : place < r.commands.length :=
        r.placed (_, place) (htable ▸ List.mem_append_cons_self)
      rw [Option.bind_some, Option.bind_some, List.getElem?_append_left hlt]

/-- A word names the last of the commands that have it as a trigger: the table holds no other
place. -/
theorem find?_eq_some_iff {commands : List Command} {word : String} {c : Command} {i : Nat} :
    (commands.foldl register {}).find? word = some (c, i) ↔ LastNamed commands word i c := by
  induction commands using List.reverseRecOn with
  | nil => exact ⟨fun h => (nomatch h), fun h => (nomatch h.place)⟩
  | append_singleton commands newer ih =>
      rw [List.foldl_append, List.foldl_cons, List.foldl_nil]
      by_cases hnamed : newer.IsNamed word
      · have hlength : (commands.foldl register {}).commands.length = commands.length := by
          rw [commands_foldl_register, List.nil_append]
        rw [find?_register_of_named hnamed, lastNamed_concat_of_named hnamed, hlength,
          Option.some_inj, Prod.mk_inj, and_comm, eq_comm, @eq_comm _ newer]
      · rw [find?_register_of_not hnamed, lastNamed_concat_of_not hnamed, ih]

theorem split_eq (text : String) : split text =
    (Text.wordPart (trim (blankOut text)), trim (Text.restPart (trim (blankOut text)))) := by
  rw [split]
  generalize trim (blankOut text) = whole
  have hparts := List.takeWhile_append_dropWhile (p := fun c => !Text.isBlank c) (l := whole.toList)
  rw [Text.splitAtBlank?, Text.splitOnce?, Text.cutAt?, Text.restPart]
  cases hrest : whole.toList.dropWhile (!Text.isBlank ·) with
  | nil =>
      rw [hrest, List.append_nil] at hparts
      rw [Text.wordPart, hparts, String.ofList_toList, String.ofList_nil, Text.trim_empty]
      rfl
  | cons c tail =>
      have hblank : Text.isBlank c = true := by
        have hhead := List.head?_dropWhile_not (fun c => !Text.isBlank c) whole.toList
        simpa [hrest] using hhead
      rw [Text.trim_cons_of_blank hblank]
      rfl

/-- A text asks for the last command that has its first word as a trigger. -/
theorem route?_eq_some_iff {commands : List Command} {text params : String} {c : Command}
    {i : Nat} :
    (commands.foldl register {}).route? text = some (c, i, params) ↔
      ∃ word tail, FirstWord (trim (blankOut text)) word tail ∧ params = trim tail ∧
        LastNamed commands word i c := by
  rw [route?, split_eq]
  dsimp only
  constructor
  · intro h
    split at h
    · cases h
    · rename_i hword
      obtain ⟨⟨found, place⟩, hfind, heq⟩ := Option.map_eq_some_iff.1 h
      cases heq
      have hne : Text.wordPart (trim (blankOut text)) ≠ "" := by simpa using hword
      exact ⟨_, _, Text.firstWord_iff.2 ⟨hne, rfl, rfl⟩, rfl, find?_eq_some_iff.1 hfind⟩
  · rintro ⟨word, tail, hfirst, rfl, hfind⟩
    obtain ⟨hword, hhead, htail⟩ := Text.firstWord_iff.1 hfirst
    rw [← hhead, ← htail, if_neg (by simpa using hword), find?_eq_some_iff.2 hfind]
    rfl

end Router

end Chat

def Notice.asks : Notice → Bool
  | .asked .. => true
  | .event _ | .other _ | .raw _ | .acted .. => false

theorem Host.asks_callbacks (h : Host) (e : Event) :
    (h.callbacks e).filter (·.notice.asks) = [] := by
  refine List.filter_eq_nil_iff.2 fun c hc => ?_
  have hevent := Host.isEvent_of_mem_callbacks hc
  cases hnotice : c.notice <;> simp_all [Notice.isEvent, Notice.asks]

/-- The message of a player who may use commands begins with the mark, and goes on with a word and
what follows it. -/
def Host.Addressed (h : Host) (p : Match.Player) (message word tail : String) : Prop :=
  h.mark ≠ "" ∧ p.banFlags.contains .bot = false ∧
    ∃ text, message = h.mark ++ text ∧
      Text.FirstWord (Text.trim (Chat.Router.blankOut text)) word tail

namespace Host

variable {h : Host} {p : Match.Player} {message : String}

def command? (h : Host) (p : Match.Player) (message : String) :
    Option (Chat.Command × Nat × String) :=
  if h.mark.isEmpty || p.isBanned .bot then none
  else (Text.after? h.mark message).bind h.router.route?

theorem asked?_of_message {e : Event} (he : e = .chat p message ∨ e = .teamChat p message) :
    h.asked? e = (h.command? p message).map fun (c, i, params) => (c, i, p, params) := by
  have hasked : h.asked? e = h.askedBy? p message := by
    rcases he with rfl | rfl <;> rfl
  rw [hasked, askedBy?, command?]
  split
  · rfl
  · rw [Option.map_bind]
    rfl

section Registered

variable {commands : List Chat.Command}
  (hrouter : h.router = commands.foldl Chat.Router.register {})

include hrouter

theorem command?_eq_some_iff {c : Chat.Command} {i : Nat} {params : String} :
    h.command? p message = some (c, i, params) ↔
      ∃ word tail, h.Addressed p message word tail ∧ params = Text.trim tail ∧
        Chat.LastNamed commands word i c := by
  rw [command?, Match.Player.isBanned, Ban.Flags.intersects_bot, hrouter]
  constructor
  · intro hfound
    split at hfound
    · cases hfound
    · rename_i hmay
      rw [Bool.or_eq_true, not_or, String.isEmpty_iff, Bool.not_eq_true] at hmay
      obtain ⟨text, htext, hroute⟩ := Option.bind_eq_some_iff.1 hfound
      obtain ⟨word, tail, hfirst, hparams, hlast⟩ := Chat.Router.route?_eq_some_iff.1 hroute
      exact ⟨word, tail, ⟨hmay.1, hmay.2, text, Text.after?_eq_some_iff.1 htext, hfirst⟩, hparams,
        hlast⟩
  · rintro ⟨word, tail, ⟨hmark, hbot, text, htext, hfirst⟩, hparams, hlast⟩
    rw [if_neg (by simp [hmark, hbot]), Text.after?_eq_some_iff.2 htext, Option.bind_some]
    exact Chat.Router.route?_eq_some_iff.2 ⟨word, tail, hfirst, hparams, hlast⟩

theorem isSome_command?_iff : (h.command? p message).isSome ↔
    ∃ word tail, h.Addressed p message word tail ∧ ∃ c ∈ commands, c.IsNamed word := by
  constructor
  · intro hfound
    obtain ⟨⟨c, i, params⟩, hfound⟩ := Option.isSome_iff_exists.1 hfound
    obtain ⟨word, tail, haddressed, -, hlast⟩ := (command?_eq_some_iff hrouter).1 hfound
    exact ⟨word, tail, haddressed, c, List.mem_of_getElem? hlast.place, hlast.named⟩
  · rintro ⟨word, tail, haddressed, hnamed⟩
    obtain ⟨i, c, hlast⟩ := Chat.exists_last_of_isNamed hnamed
    rw [(command?_eq_some_iff hrouter).2 ⟨word, tail, haddressed, rfl, hlast⟩]
    rfl

end Registered

end Host

namespace Scene

variable (t : Moment) (sc : Scene)

/-- A chat message runs at most one command: of all that were registered the last one that has the
first word of the message behind the mark as a trigger, with what follows the word. It runs none if
there is no such command, or no mark, or if its author may use none. -/
theorem a_message_runs_the_last_command_of_its_first_word {commands : List Chat.Command}
    (hrouter : sc.host.router = commands.foldl Chat.Router.register {})
    {e : Event} {p : Match.Player} {message : String}
    (he : e = .chat p message ∨ e = .teamChat p message) :
    ∃ found : Option (Chat.Command × Nat × String),
      (found.isSome ↔ ∃ word tail, sc.host.Addressed p message word tail ∧
        ∃ c ∈ commands, c.IsNamed word) ∧
      (∀ c i params, found = some (c, i, params) ↔
        ∃ word tail, sc.host.Addressed p message word tail ∧ params = Text.trim tail ∧
          Chat.LastNamed commands word i c) ∧
      (sc.deliver t e).routeChat t e = (match found with
        | none => sc.deliver t e
        | some (c, i, params) =>
          (sc.deliver t e).call t (.command i) (.asked p params)
            (c.run sc.host.reference · p params)) ∧
      ((sc.deliver t e).routeChat t e).noted Notice.asks = sc.noted Notice.asks ++
        found.toList.map fun (_, i, params) => ⟨.command i, .asked p params⟩ := by
  refine ⟨sc.host.command? p message, Host.isSome_command?_iff hrouter,
    fun _ _ _ => Host.command?_eq_some_iff hrouter, ?_, ?_⟩
  · rw [routeChat_eq, host_deliver, Host.asked?_of_message he]
    cases sc.host.command? p message <;> rfl
  · rw [noted_routeChat _ _ Notice.asks (fun _ _ => rfl), host_deliver,
      noted_deliver _ _ Notice.asks (fun _ _ => rfl), Host.asks_callbacks, List.append_nil,
      Host.commandCallbacks, Host.asked?_of_message he]
    cases sc.host.command? p message <;> rfl

theorem a_message_runs_the_last_command_of_its_first_word_after_it_was_taken_over :
    let greet : Chat.Command :=
      ⟨["hi", "HELP"], "hi - says hello", fun _ _ p params => [.tell p.id params]⟩
    let commands := Chat.builtin.commands ++ [greet]
    let host : Host := { router := commands.foldl Chat.Router.register {} }
    let sc : Scene := { host, session := .idle { name := "eu" } ⟨0⟩ }
    let p : Match.Player := { id := ⟨7⟩, name := "Ada", joinedAt := ⟨0⟩ }
    let message := "! \x02hElP\x02 to  all \x02"
    let e : Event := .teamChat p message
    let heard := (sc.deliver ⟨⟨9⟩, 0⟩ e).routeChat ⟨⟨9⟩, 0⟩ e
    heard.noted Notice.asks = sc.noted Notice.asks ++ [⟨.command 2, .asked p "to  all"⟩] := by
  intro greet commands host sc p message e heard
  have hrouter : sc.host.router = commands.foldl Chat.Router.register {} := rfl
  have he : e = .chat p message ∨ e = .teamChat p message := .inr rfl
  obtain ⟨found, -, hfound, -, hnoted⟩ :=
    a_message_runs_the_last_command_of_its_first_word ⟨⟨9⟩, 0⟩ sc hrouter he
  have haddressed : sc.host.Addressed p message "hElP" "  to  all" :=
    ⟨by decide, by decide, " \x02hElP\x02 to  all \x02", by decide,
      Text.firstWord_iff.2 ⟨by decide, by decide, by decide⟩⟩
  have hlast : Chat.LastNamed commands "hElP" 2 greet :=
    ⟨rfl, ⟨"HELP", by simp [greet], by decide⟩, fun j c' hj hplace => by
      have hend := (List.getElem?_eq_some_iff.1 hplace).1
      simp [commands, Chat.builtin, Chat.Router.register] at hend
      omega⟩
  rw [(hfound greet 2 "to  all").2 ⟨"hElP", "  to  all", haddressed, by decide, hlast⟩] at hnoted
  exact hnoted

end Scene

end RemoteConsole
