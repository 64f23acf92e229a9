import Mathlib.Data.List.Induction
import Mathlib.Data.List.TakeWhile
import RemoteConsole.Settings.Read

namespace RemoteConsole

namespace Settings

section Options

variable {O : Type} (set : O → String → String → O) (only : O → String → O) (fresh : O → O)
  (hfresh : ∀ o key value, fresh (set o key value) = fresh o)
  (hself : ∀ o key value, only (set o key value) key = set (fresh o) key value)
  (hother : ∀ o key other value, other ≠ key → only (set o other value) key = only o key)

include hfresh hself hother

theorem only_foldl (o : O) (assignments : List (String × String)) (key : String) :
    only (assignments.foldl (fun o (key, value) => set o key value) o) key =
      (assignments.reverse.lookup key).elim (only o key) (set (fresh o) key) := by
  have hkept (assignments : List (String × String)) :
      fresh (assignments.foldl (fun o (key, value) => set o key value) o) = fresh o :=
    List.foldlRecOn (motive := (fresh · = fresh o)) _ _ rfl fun _ h _ _ => (hfresh _ _ _).trans h
  induction assignments using List.reverseRecOn with
  | nil => rfl
  | append_singleton assignments last ih =>
      obtain ⟨other, value⟩ := last
      rw [List.foldl_append, List.foldl_cons, List.foldl_nil, List.reverse_append,
        List.reverse_singleton, List.singleton_append, List.lookup_cons]
      by_cases hkey : key = other
      · rw [← hkey, hself, hkept, beq_self_eq_true, Option.elim_some]
      · rw [hother _ _ _ _ (Ne.symm hkey), ih, beq_false_of_ne hkey]

theorem only_set_swap {key other : String} (hne : key ≠ other) (o : O) (value value' : String)
    (wanted : String) :
    only (set (set o key value) other value') wanted =
      only (set (set o other value') key value) wanted := by
  by_cases hkey : wanted = key
  · rw [hkey, hother _ _ _ _ hne.symm, hself, hself, hfresh]
  · rw [hother (set o other value') _ _ _ (Ne.symm hkey)]
    by_cases hwanted : wanted = other
    · rw [hwanted, hself, hself, hfresh]
    · rw [hother _ _ _ _ (Ne.symm hwanted), hother _ _ _ _ (Ne.symm hkey),
        hother _ _ _ _ (Ne.symm hwanted)]

end Options

end Settings

namespace HostSettings

variable (h : HostSettings)

def options : HostSettings :=
  { h with servers := [] }

def only (key : String) : HostSettings :=
  match key with
  | "log_level" => { logLevel := h.logLevel }
  | "tick_rate" => { tickRate := h.tickRate }
  | "command_prefix" => { commandMark := h.commandMark }
  | "ban_file" => { banFile := h.banFile }
  | "ladder_file" => { ladderFile := h.ladderFile }
  | "rdns_workers" => { lookups := h.lookups }
  | _ => {}

/-- The one option of a key once some keys are assigned: the last assignment to it counts. -/
def onlyAfter (assignments : List (String × String)) (key : String) : HostSettings :=
  (assignments.reverse.lookup key).elim (h.only key) (({} : HostSettings).set key)

def setAll (assignments : List (String × String)) : HostSettings :=
  assignments.foldl (fun h (key, value) => h.set key value) h

@[simp]
theorem setAll_nil : h.setAll [] = h :=
  rfl

@[simp]
theorem setAll_cons (key value : String) (rest : List (String × String)) :
    h.setAll ((key, value) :: rest) = (h.set key value).setAll rest :=
  rfl

theorem setAll_append (some others : List (String × String)) :
    h.setAll (some ++ others) = (h.setAll some).setAll others :=
  List.foldl_append

theorem options_set (key value : String) : (h.set key value).options = h.options.set key value := by
  unfold set
  split <;> rfl

theorem options_setAll (assignments : List (String × String)) :
    (h.setAll assignments).options = h.options.setAll assignments := by
  induction assignments generalizing h with
  | nil => rfl
  | cons assignment rest ih => rw [setAll_cons, setAll_cons, ih, options_set]

theorem only_options (key : String) : h.options.only key = h.only key := by
  unfold only
  split <;> rfl

theorem only_set_self (key value : String) :
    (h.set key value).only key = ({} : HostSettings).set key value := by
  unfold set only
  split <;> simp_all

theorem only_set_of_ne {key other : String} (hne : other ≠ key) (value : String) :
    (h.set other value).only key = h.only key := by
  unfold set
  split
  all_goals
    unfold only
    split
    all_goals first | rfl | exact absurd rfl hne

/-- The options are the same once they are the same key by key. -/
theorem options_eq_iff {h h' : HostSettings} :
    h.options = h'.options ↔ ∀ key, h.only key = h'.only key := by
  refine ⟨fun heq key => ?_, fun heq => ?_⟩
  · rw [← only_options h, heq, only_options h']
  · have hlog : h.logLevel = h'.logLevel := congrArg (·.logLevel) (heq "log_level")
    have htick : h.tickRate = h'.tickRate := congrArg (·.tickRate) (heq "tick_rate")
    have hmark : h.commandMark = h'.commandMark := congrArg (·.commandMark) (heq "command_prefix")
    have hban : h.banFile = h'.banFile := congrArg (·.banFile) (heq "ban_file")
    have hladder : h.ladderFile = h'.ladderFile := congrArg (·.ladderFile) (heq "ladder_file")
    have hlookups : h.lookups = h'.lookups := congrArg (·.lookups) (heq "rdns_workers")
    rw [options, options, hlog, htick, hmark, hban, hladder, hlookups]

theorem only_setAll (assignments : List (String × String)) (key : String) :
    (h.setAll assignments).only key = h.onlyAfter assignments key :=
  Settings.only_foldl set only (fun _ => {}) (fun _ _ _ => rfl) only_set_self
    (fun o _ _ value hne => only_set_of_ne o hne value) h assignments key

end HostSettings

namespace Settings

def Line.isHeader : Line → Bool
  | .server _ | .unknown _ => true
  | _ => false

def Line.assignment? : Line → Option (String × String)
  | .option key value => some (key, value)
  | _ => none

def strays (inServer : Bool) : List Line → List (String × String)
  | [] => []
  | .server _ :: lines => strays true lines
  | .unknown _ :: lines => strays false lines
  | .option key value :: lines =>
    if inServer then strays true lines else (key, value) :: strays false lines
  | .empty :: lines | .unreadable :: lines => strays inServer lines

def linesOf (text : String) : List Line :=
  (Text.piecesOf '\n' text.toList).map Line.read

def hostPart (text : String) : List Line :=
  (linesOf text).takeWhile (!·.isHeader)

def hostOptions (text : String) : HostSettings :=
  ({} : HostSettings).setAll ((hostPart text).filterMap Line.assignment?)

/-- What is assigned in the sections with an unknown header. -/
def ignored (text : String) : List (String × String) :=
  strays false ((linesOf text).dropWhile (!·.isHeader))

namespace Reading

variable (r : Reading)

theorem current_close : r.close.current = none := by
  unfold close
  split
  · assumption
  · dsimp only
    split
    · rfl
    · split <;> rfl

theorem options_close : r.close.host.options = r.host.options := by
  unfold close
  split
  · rfl
  · dsimp only
    split
    · rfl
    · split <;> rfl

theorem options_takeAll (lines : List Line) (number : Nat) :
    ((lines.zipIdx number).foldl (fun r (line, number) => r.take number line) r).host.options =
      r.host.options.setAll (strays r.current.isSome lines) := by
  induction lines generalizing r number with
  | nil => rfl
  | cons line lines ih =>
      rw [List.zipIdx_cons, List.foldl_cons, ih]
      cases line with
      | empty | unreadable => rfl
      | server name => exact congrArg (·.setAll (strays true lines)) r.options_close
      | unknown header =>
          simp only [take, remark, current_close, options_close, Option.isSome_none, strays]
      | option key value =>
          simp only [take, strays]
          cases hcurrent : r.current with
          | some s => rfl
          | none => simp [HostSettings.options_set]

end Reading

theorem options_readLines (lines : List Line) :
    (readLines lines).host.options = ({} : HostSettings).setAll (strays false lines) := by
  rw [readLines, Reading.options_close, Reading.options_takeAll]
  rfl

theorem strays_of_noHeader {lines : List Line} (h : ∀ line ∈ lines, line.isHeader = false)
    (rest : List Line) :
    strays false (lines ++ rest) = lines.filterMap Line.assignment? ++ strays false rest := by
  induction lines with
  | nil => rfl
  | cons line lines ih =>
      have hrest := ih fun l hl => h l (List.mem_cons_of_mem line hl)
      cases line with
      | server | unknown => exact nomatch h _ List.mem_cons_self
      | empty | unreadable => exact hrest
      | option key value => exact congrArg ((key, value) :: ·) hrest

theorem strays_linesOf (text : String) :
    strays false (linesOf text) =
      (hostPart text).filterMap Line.assignment? ++ ignored text := by
  rw [hostPart, ignored, ← strays_of_noHeader, List.takeWhile_append_dropWhile]
  intro line hline
  simpa using List.mem_takeWhile_imp hline

theorem host_of_read {text : String} {s : HostSettings} (h : (read text).1 = .ok s) :
    s = (readLines (linesOf text)).host := by
  unfold read at h
  dsimp only at h
  split at h
  · exact nomatch h
  · exact (Except.ok.inj h).symm

theorem options_hostOptions (text : String) : (hostOptions text).options = hostOptions text :=
  HostSettings.options_setAll _ _

theorem only_of_read {text : String} {s : HostSettings} (h : (read text).1 = .ok s)
    (key : String) : s.only key = (hostOptions text).onlyAfter (ignored text) key := by
  rw [host_of_read h, ← HostSettings.only_options, options_readLines, strays_linesOf,
    HostSettings.setAll_append, HostSettings.only_setAll]
  rfl

/-- The host's options are those that the lines before the first header set, exactly if what an
ignored section says last of a key is what those lines make of it already. Two texts with the same
lines before their first headers give the same options, exactly if their ignored sections leave
each key the same. -/
theorem options_come_from_the_host_part_iff_ignored_sections_say_nothing_new {text : String}
    {s : HostSettings} (h : (read text).1 = .ok s) :
    (s.options = hostOptions text ↔
      ∀ key value, (ignored text).reverse.lookup key = some value →
        ({} : HostSettings).set key value = (hostOptions text).only key) ∧
      ∀ other s', (read other).1 = .ok s' → hostPart other = hostPart text →
        (s'.options = s.options ↔ ∀ key,
          (hostOptions text).onlyAfter (ignored other) key =
            (hostOptions text).onlyAfter (ignored text) key) := by
  refine ⟨?_, fun other s' h' hpart => ?_⟩
  · rw [← options_hostOptions, HostSettings.options_eq_iff]
    refine forall_congr' fun key => ?_
    rw [only_of_read h, HostSettings.onlyAfter, HostSettings.only_options]
    cases (ignored text).reverse.lookup key with
    | none => exact iff_of_true rfl nofun
    | some value =>
        exact ⟨fun heq _ hvalue => Option.some.inj hvalue ▸ heq, fun hsame => hsame _ rfl⟩
  · have hhost : hostOptions other = hostOptions text := by rw [hostOptions, hpart, hostOptions]
    rw [HostSettings.options_eq_iff]
    refine forall_congr' fun key => ?_
    rw [only_of_read h, only_of_read h', hhost]

theorem options_with_an_ignored_section :
    ∃ s s', (read "log_level = debug\n[server a]\nhostname = h\n[logging]\nlog_level = debug").1 =
        .ok s ∧
      (read "log_level = debug\n[server a]\nhostname = h").1 = .ok s' ∧
      s.options = hostOptions
        "log_level = debug\n[server a]\nhostname = h\n[logging]\nlog_level = debug" ∧
      s'.options = s.options := by
  obtain ⟨s, h⟩ : ∃ s, (read
      "log_level = debug\n[server a]\nhostname = h\n[logging]\nlog_level = debug").1 = .ok s :=
    ⟨_, rfl⟩
  obtain ⟨s', h'⟩ : ∃ s', (read "log_level = debug\n[server a]\nhostname = h").1 = .ok s' :=
    ⟨_, rfl⟩
  obtain ⟨halone, htwo⟩ :=
    options_come_from_the_host_part_iff_ignored_sections_say_nothing_new h
  have hignored : ignored
      "log_level = debug\n[server a]\nhostname = h\n[logging]\nlog_level = debug" =
        [("log_level", "debug")] := by decide +kernel
  refine ⟨s, s', h, h', halone.2 fun key value hkey => ?_,
    (htwo _ _ h' (by decide +kernel)).2 fun key => ?_⟩
  · rw [hignored] at hkey
    by_cases hlog : key = "log_level"
    · subst hlog
      cases hkey
      decide +kernel
    · rw [List.reverse_singleton, List.lookup_cons, beq_false_of_ne hlog] at hkey
      exact nomatch hkey
  · rw [hignored]
    by_cases hlog : key = "log_level"
    · subst hlog
      decide +kernel
    · have hother : ignored "log_level = debug\n[server a]\nhostname = h" = [] := by decide +kernel
      rw [hother, HostSettings.onlyAfter, HostSettings.onlyAfter, List.reverse_singleton,
        List.lookup_cons, beq_false_of_ne hlog]
      rfl

/-- Behind a header that is not a server's, a line still reaches the host. -/
theorem an_ignored_section_can_set_an_option :
    ¬ ∀ text other s s', (read text).1 = .ok s → (read other).1 = .ok s' →
        hostPart text = hostPart other → s.options = s'.options := by
  intro hall
  have heq := hall "[server a]\nhostname = h\n[logging]\nlog_level = debug"
    "[server a]\nhostname = h" _ _ rfl rfl (by decide +kernel)
  exact absurd (congrArg (·.logLevel) heq) (by decide +kernel)

end Settings

end RemoteConsole
