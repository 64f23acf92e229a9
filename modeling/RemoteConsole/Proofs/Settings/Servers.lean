import RemoteConsole.Proofs.Settings.Sections
import RemoteConsole.Proofs.Text.Pieces

namespace RemoteConsole

namespace ServerSettings

variable (s : ServerSettings)

def only (key : String) : ServerSettings :=
  match key with
  | "hostname" => { name := s.name, host := s.host }
  | "port" => { name := s.name, tcpPort := s.tcpPort }
  | "password" => { name := s.name, password := s.password }
  | "reconnect_delay" => { name := s.name, reconnectDelay := s.reconnectDelay }
  | "max_reconnect_delay" => { name := s.name, longestReconnectDelay := s.longestReconnectDelay }
  | "max_attempts" => { name := s.name, maxAttempts := s.maxAttempts }
  | "connect_timeout" => { name := s.name, connectTimeout := s.connectTimeout }
  | "ping_rate" => { name := s.name, pingRate := s.pingRate }
  | "ping_timeout" => { name := s.name, pingTimeout := s.pingTimeout }
  | "client_update_rate" => { name := s.name, rosterRate := s.rosterRate }
  | "ladder" => { name := s.name, ladder := s.ladder }
  | "ban_check" => { name := s.name, banCheck := s.banCheck }
  | _ => { name := s.name }

def setAll (assignments : List (String × String)) : ServerSettings :=
  assignments.foldl (fun s (key, value) => s.set key value) s

theorem fresh_set (key value : String) :
    ({ name := (s.set key value).name } : ServerSettings) = { name := s.name } := by
  unfold set
  split <;> rfl

theorem only_set_self (key value : String) :
    (s.set key value).only key = ({ name := s.name } : ServerSettings).set key value := by
  unfold set
  split
  all_goals first | rfl | simp_all [only]

theorem only_set_of_ne {key other : String} (hne : other ≠ key) (value : String) :
    (s.set other value).only key = s.only key := by
  unfold set
  split
  all_goals
    unfold only
    split
    all_goals first | rfl | exact absurd rfl hne

theorem ext_only {s s' : ServerSettings} (h : ∀ key, s.only key = s'.only key) : s = s' := by
  have hname : s.name = s'.name := congrArg (·.name) (h "")
  have hhost : s.host = s'.host := congrArg (·.host) (h "hostname")
  have hport : s.tcpPort = s'.tcpPort := congrArg (·.tcpPort) (h "port")
  have hpassword : s.password = s'.password := congrArg (·.password) (h "password")
  have hdelay : s.reconnectDelay = s'.reconnectDelay :=
    congrArg (·.reconnectDelay) (h "reconnect_delay")
  have hlongest : s.longestReconnectDelay = s'.longestReconnectDelay :=
    congrArg (·.longestReconnectDelay) (h "max_reconnect_delay")
  have hattempts : s.maxAttempts = s'.maxAttempts := congrArg (·.maxAttempts) (h "max_attempts")
  have hconnect : s.connectTimeout = s'.connectTimeout :=
    congrArg (·.connectTimeout) (h "connect_timeout")
  have hrate : s.pingRate = s'.pingRate := congrArg (·.pingRate) (h "ping_rate")
  have htimeout : s.pingTimeout = s'.pingTimeout := congrArg (·.pingTimeout) (h "ping_timeout")
  have hroster : s.rosterRate = s'.rosterRate := congrArg (·.rosterRate) (h "client_update_rate")
  have hladder : s.ladder = s'.ladder := congrArg (·.ladder) (h "ladder")
  have hbans : s.banCheck = s'.banCheck := congrArg (·.banCheck) (h "ban_check")
  cases s
  cases s'
  simp_all only

theorem only_setAll (assignments : List (String × String)) (key : String) :
    (s.setAll assignments).only key = (assignments.reverse.lookup key).elim (s.only key)
      (({ name := s.name } : ServerSettings).set key) :=
  Settings.only_foldl set only (fun s => { name := s.name }) fresh_set only_set_self
    (fun s _ _ value hne => only_set_of_ne s hne value) s assignments key

theorem set_swap {key other : String} (hne : key ≠ other) (value value' : String) :
    (s.set key value).set other value' = (s.set other value').set key value :=
  ext_only (Settings.only_set_swap set only (fun s => { name := s.name }) fresh_set only_set_self
    (fun s _ _ value hne => only_set_of_ne s hne value) hne s value value')

end ServerSettings

namespace HostSettings

variable (h : HostSettings)

theorem servers_set (key value : String) : (h.set key value).servers = h.servers := by
  unfold set
  split <;> rfl

theorem set_swap {key other : String} (hne : key ≠ other) (value value' : String) :
    (h.set key value).set other value' = (h.set other value').set key value := by
  have hservers : ((h.set key value).set other value').servers =
      ((h.set other value').set key value).servers := by
    simp only [servers_set]
  have hoptions : ((h.set key value).set other value').options =
      ((h.set other value').set key value).options :=
    options_eq_iff.2 (Settings.only_set_swap set only (fun _ => {}) (fun _ _ _ => rfl) only_set_self
      (fun o _ _ value hne => only_set_of_ne o hne value) hne h value value')
  generalize (h.set key value).set other value' = s at hservers hoptions ⊢
  generalize (h.set other value').set key value = s' at hservers hoptions ⊢
  cases s
  cases s'
  simp_all [options]

end HostSettings

namespace Settings

def linesIn (text : String) : List (List Char) :=
  Text.piecesOf '\n' text.toList

def isHeader (line : List Char) : Bool :=
  (header? (Text.trimChars line)).isSome

/-- The line says `key = value`, and this is the key as it is written. -/
def Assigns (line : List Char) (key value : String) : Prop :=
  isHeader line = false ∧ (Text.trimChars line).head? ≠ some '#' ∧
    ∃ before after, '=' ∉ before ∧ Text.trimChars line = before ++ '=' :: after ∧
      key = .ofList (Text.trimChars before) ∧ value = .ofList (Text.trimChars after)

def upToHeader (lines : List (List Char)) : List (List Char) :=
  lines.takeWhile (!isHeader ·)

/-- Each header with the lines up to the next. -/
def sectionsOf : List (List Char) → List (List Char × List (List Char))
  | [] => []
  | line :: lines =>
    if isHeader line then (line, upToHeader lines) :: sectionsOf lines else sectionsOf lines

def assignments (lines : List (List Char)) : List (String × String) :=
  (lines.map Line.read).filterMap Line.assignment?

/-- A server as the lines of its section set it. -/
def serverOf (name : String) (lines : List (List Char)) : ServerSettings :=
  ({ name } : ServerSettings).setAll (assignments lines)

def kept (s : ServerSettings) : Option ServerSettings :=
  if s.host.isEmpty then none else some s

/-- The server of a section that is a server's, if it has a host. -/
def server? (part : List Char × List (List Char)) : Option ServerSettings :=
  match Line.read part.1 with
  | .server name => kept (serverOf name part.2)
  | _ => none

def serversIn (text : String) : List ServerSettings :=
  (sectionsOf (linesIn text)).filterMap server?

section Header

variable {line : List Char} (lines : List (List Char))

theorem upToHeader_header (h : isHeader line = true) : upToHeader (line :: lines) = [] := by
  rw [upToHeader, List.takeWhile_cons_of_neg (by simp [h])]

theorem upToHeader_other (h : isHeader line = false) :
    upToHeader (line :: lines) = line :: upToHeader lines := by
  rw [upToHeader, List.takeWhile_cons_of_pos (by simp [h]), upToHeader]

theorem sectionsOf_header (h : isHeader line = true) :
    sectionsOf (line :: lines) = (line, upToHeader lines) :: sectionsOf lines := by
  rw [sectionsOf, if_pos h]

theorem sectionsOf_other (h : isHeader line = false) :
    sectionsOf (line :: lines) = sectionsOf lines := by
  rw [sectionsOf, if_neg (by simp [h])]

theorem assignments_cons : assignments (line :: lines) =
    (Line.read line).assignment?.toList ++ assignments lines := by
  rw [assignments, assignments, List.map_cons, List.filterMap_cons]
  cases (Line.read line).assignment? <;> rfl

end Header

theorem isHeader_read (line : List Char) : (Line.read line).isHeader = isHeader line := by
  have hsection (header : String) : (sectionLine header).isHeader = true := by
    unfold sectionLine
    repeat' split
    all_goals rfl
  unfold Line.read isHeader
  dsimp only
  split
  · rename_i hempty
    rcases hempty with hempty | hcomment
    · rw [List.isEmpty_iff.1 hempty]
      rfl
    · obtain ⟨rest, hrest⟩ := List.head?_eq_some_iff.1 hcomment
      rw [hrest]
      rfl
  · split
    · rename_i header hheader
      rw [hheader, hsection]
      rfl
    · rename_i hheader
      rw [hheader]
      split <;> rfl

theorem read_of_assigns {line : List Char} {key value : String} (h : Assigns line key value) :
    Line.read line = .option (Text.lowerAscii key) value := by
  obtain ⟨hheader, hcomment, before, after, hbefore, hline, rfl, rfl⟩ := h
  have hsome : ¬ ((Text.trimChars line).isEmpty ∨ (Text.trimChars line).head? = some '#') := by
    rw [not_or]
    exact ⟨by simp [hline], hcomment⟩
  have hnone : header? (Text.trimChars line) = none := by simpa [isHeader] using hheader
  rw [Line.read, if_neg hsome]
  simp only [hnone, Text.cutAt?_separator_eq_some_iff.2 ⟨hbefore, hline⟩]

theorem assigns_of_read {line : List Char} {key value : String}
    (h : Line.read line = .option key value) :
    ∃ written, Assigns line written value ∧ key = Text.lowerAscii written := by
  have hheader : isHeader line = false := by rw [← isHeader_read, h]; rfl
  have hnone : header? (Text.trimChars line) = none := by simpa [isHeader] using hheader
  rw [Line.read] at h
  simp only [hnone] at h
  split at h
  · cases h
  · rename_i hsome
    split at h
    · cases h
    · rename_i before after hcut
      obtain ⟨hbefore, hline⟩ := Text.cutAt?_separator_eq_some_iff.1 hcut
      cases h
      exact ⟨_, ⟨hheader, (not_or.1 hsome).2, before, after, hbefore, hline, rfl, rfl⟩, rfl⟩

theorem mem_assignments {lines : List (List Char)} {key value : String} :
    (key, value) ∈ assignments lines ↔
      ∃ line ∈ lines, ∃ written, Assigns line written value ∧ key = Text.lowerAscii written := by
  have hline (line : Line) :
      line.assignment? = some (key, value) ↔ line = .option key value := by
    cases line <;> simp [Line.assignment?]
  simp only [assignments, List.mem_filterMap, List.mem_map, exists_exists_and_eq_and, hline]
  refine exists_congr fun line => and_congr_right fun _ => ⟨assigns_of_read, ?_⟩
  rintro ⟨written, h, rfl⟩
  exact read_of_assigns h

theorem only_serverOf (name : String) {before after : List (List Char)} {line : List Char}
    {key value : String} (h : Assigns line key value)
    (hlast : ∀ later ∈ after, ∀ key' value', Assigns later key' value' →
      Text.sameLetters key' key = false) :
    (serverOf name (before ++ line :: after)).only (Text.lowerAscii key) =
      ({ name } : ServerSettings).set (Text.lowerAscii key) value := by
  have hafter : (assignments after).reverse.lookup (Text.lowerAscii key) = none := by
    rw [List.lookup_eq_none_iff]
    rintro ⟨key', value'⟩ hmem
    obtain ⟨later, hlater, written, hwritten, rfl⟩ := mem_assignments.1 (List.mem_reverse.1 hmem)
    have hother := hlast later hlater written value' hwritten
    rw [bne_iff_ne, ne_comm, ne_eq, Text.lowerAscii_eq_iff, hother]
    exact Bool.false_ne_true
  have hassignments : assignments (before ++ line :: after) =
      assignments before ++ (Text.lowerAscii key, value) :: assignments after := by
    simp [assignments, read_of_assigns h, Line.assignment?]
  rw [serverOf, ServerSettings.only_setAll, hassignments, List.reverse_append, List.reverse_cons,
    List.append_assoc, List.lookup_append, hafter]
  simp

namespace Reading

variable (r : Reading)

theorem servers_close : r.close.host.servers = r.host.servers ++ (r.current.bind kept).toList := by
  unfold close kept
  cases r.current with
  | none => simp
  | some s =>
      simp only [Option.bind_some]
      split
      · simp [remark]
      · split <;> simp [remark]

/-- What becomes of the server whose section is open, if these lines follow. -/
def opened? (lines : List (List Char)) : Option ServerSettings :=
  r.current.bind fun s => kept (s.setAll (assignments (upToHeader lines)))

/-- The servers read so far, the one whose section is open, and those of the sections to come. -/
def serversWith (lines : List (List Char)) : List ServerSettings :=
  r.host.servers ++ (r.opened? lines).toList ++ (sectionsOf lines).filterMap server?

theorem serversWith_nil : r.serversWith [] = r.close.host.servers := by
  rw [serversWith, sectionsOf, List.filterMap_nil, List.append_nil, r.servers_close]
  rfl

theorem serversWith_header {line : List Char} (h : isHeader line = true)
    (lines : List (List Char)) :
    r.serversWith (line :: lines) = r.close.host.servers ++
      (server? (line, upToHeader lines)).toList ++ (sectionsOf lines).filterMap server? := by
  have hopened : r.opened? (line :: lines) = r.current.bind kept := by
    rw [opened?, upToHeader_header lines h]
    rfl
  rw [serversWith, hopened, ← r.servers_close, sectionsOf_header lines h, List.filterMap_cons]
  cases server? (line, upToHeader lines) <;> simp

theorem serversWith_take (line : List Char) (lines : List (List Char)) (number : Nat) :
    (r.take number (Line.read line)).serversWith lines = r.serversWith (line :: lines) := by
  have hheader := isHeader_read line
  cases hline : Line.read line with
  | empty | unreadable =>
      rw [hline] at hheader
      rw [serversWith, serversWith, opened?, opened?, sectionsOf_other lines hheader.symm,
        upToHeader_other lines hheader.symm, assignments_cons, hline]
      rfl
  | option key value =>
      rw [hline] at hheader
      rw [serversWith, serversWith, opened?, opened?, sectionsOf_other lines hheader.symm,
        upToHeader_other lines hheader.symm, assignments_cons, hline]
      cases hcurrent : r.current with
      | none => simp [take, hcurrent, HostSettings.servers_set]
      | some s => simp [take, hcurrent, Line.assignment?, ServerSettings.setAll]
  | server name =>
      rw [hline] at hheader
      have hserver : server? (line, upToHeader lines) =
          kept (serverOf name (upToHeader lines)) := by
        simp only [server?, hline]
      rw [r.serversWith_header hheader.symm, hserver]
      rfl
  | unknown header =>
      rw [hline] at hheader
      have hserver : server? (line, upToHeader lines) = none := by simp only [server?, hline]
      rw [r.serversWith_header hheader.symm, hserver, serversWith, opened?, take, remark,
        current_close]
      rfl

theorem servers_takeAll (lines : List (List Char)) (number : Nat) :
    (((lines.map Line.read).zipIdx number).foldl (fun r (line, number) => r.take number line)
      r).close.host.servers = r.serversWith lines := by
  induction lines generalizing r number with
  | nil => exact r.serversWith_nil.symm
  | cons line lines ih =>
      rw [List.map_cons, List.zipIdx_cons, List.foldl_cons, ih, serversWith_take]

theorem take_swap {key other : String} (hne : key ≠ other) (value value' : String)
    (n m n' m' : Nat) :
    (r.take n (.option key value)).take m (.option other value') =
      (r.take n' (.option other value')).take m' (.option key value) := by
  cases hcurrent : r.current with
  | none => simp only [take, hcurrent, HostSettings.set_swap _ hne]
  | some s => simp only [take, hcurrent, ServerSettings.set_swap _ hne]

end Reading

theorem read_eq (text : String) :
    read text = if (readLines (linesOf text)).host.servers.isEmpty then
        (.error (.config "no [server NAME] section with a hostname"),
          (readLines (linesOf text)).remarks)
      else (.ok (readLines (linesOf text)).host, (readLines (linesOf text)).remarks) :=
  rfl

theorem servers_read (text : String) :
    (read text).1.map HostSettings.servers =
      if serversIn text = [] then .error (.config "no [server NAME] section with a hostname")
      else .ok (serversIn text) := by
  have hservers : (readLines (linesOf text)).host.servers = serversIn text :=
    Reading.servers_takeAll {} (linesIn text) 1
  rw [read_eq, hservers]
  by_cases hempty : serversIn text = []
  · rw [if_pos (List.isEmpty_iff.2 hempty), if_pos hempty]
    rfl
  · rw [if_neg (mt List.isEmpty_iff.1 hempty), if_neg hempty, ← hservers]
    rfl

theorem readLines_swap (before after : List Line) {key other : String} (hne : key ≠ other)
    (value value' : String) :
    readLines (before ++ .option key value :: .option other value' :: after) =
      readLines (before ++ .option other value' :: .option key value :: after) := by
  simp only [readLines, List.zipIdx_append, List.zipIdx_cons, List.foldl_append, List.foldl_cons]
  rw [Reading.take_swap _ hne]

theorem read_swap {text other : String} {before after : List (List Char)} {a b : List Char}
    {key value key' value' : String} (htext : linesIn text = before ++ a :: b :: after)
    (hother : linesIn other = before ++ b :: a :: after) (ha : Assigns a key value)
    (hb : Assigns b key' value') (hkeys : Text.sameLetters key key' = false) :
    read text = read other := by
  have hne : Text.lowerAscii key ≠ Text.lowerAscii key' := by
    rw [ne_eq, Text.lowerAscii_eq_iff, hkeys]
    exact Bool.false_ne_true
  have hlines : readLines (linesOf text) = readLines (linesOf other) := by
    change readLines ((linesIn text).map Line.read) = readLines ((linesIn other).map Line.read)
    rw [htext, hother]
    simp only [List.map_append, List.map_cons, read_of_assigns ha, read_of_assigns hb]
    exact readLines_swap _ _ hne value value'
  rw [read_eq, read_eq, hlines]

/-- The servers are those of the servers' sections that give them a host, each made of the lines of
its own section alone, and a text without any is refused. In a section the last assignment of a key
counts, in whatever case it is written, and lines with different keys may change places. -/
theorem a_server_is_made_of_its_own_section (text : String) :
    (read text).1.map HostSettings.servers =
        (if serversIn text = [] then .error (.config "no [server NAME] section with a hostname")
        else .ok (serversIn text)) ∧
      (∀ name before line after key value, Assigns line key value →
        (∀ later ∈ after, ∀ key' value', Assigns later key' value' →
          Text.sameLetters key' key = false) →
        (serverOf name (before ++ line :: after)).only (Text.lowerAscii key) =
          ({ name } : ServerSettings).set (Text.lowerAscii key) value) ∧
      ∀ other before a b after key value key' value',
        linesIn text = before ++ a :: b :: after → linesIn other = before ++ b :: a :: after →
        Assigns a key value → Assigns b key' value' → Text.sameLetters key key' = false →
        read other = read text := by
  refine ⟨servers_read text, fun name before line after key value => only_serverOf name, ?_⟩
  intro other before a b after key value key' value' htext hother ha hb hkeys
  exact (read_swap htext hother ha hb hkeys).symm

theorem a_server_is_made_of_its_own_section_with_a_key_twice :
    (read
        "port = 1\n[server a]\nport = 80\nPORT = 81\nhostname = h\n[logging]\nhostname = x").1.map
        HostSettings.servers = .ok [{ name := "a", host := "h", tcpPort := 81 }] ∧
      (serverOf "a" ["port = 80".toList, "PORT = 81".toList, "hostname = h".toList]).only "port" =
        { name := "a", tcpPort := 81 } ∧
      read "port = 1\n[server a]\nport = 80\nhostname = h\nPORT = 81\n[logging]\nhostname = x" =
        read
          "port = 1\n[server a]\nport = 80\nPORT = 81\nhostname = h\n[logging]\nhostname = x" := by
  have hport : Assigns "PORT = 81".toList "PORT" "81" :=
    ⟨by decide, by decide, "PORT ".toList, " 81".toList, by decide, by decide, by decide, by decide⟩
  have hhost : Assigns "hostname = h".toList "hostname" "h" :=
    ⟨by decide, by decide, "hostname ".toList, " h".toList, by decide, by decide, by decide, by decide⟩
  obtain ⟨hservers, hlast, hswap⟩ := a_server_is_made_of_its_own_section
    "port = 1\n[server a]\nport = 80\nPORT = 81\nhostname = h\n[logging]\nhostname = x"
  refine ⟨?_, ?_, ?_⟩
  · rw [hservers]
    decide +kernel
  · have hlater (key value : String) (h : Assigns "hostname = h".toList key value) :
        Text.sameLetters key "PORT" = false := by
      have hread := (read_of_assigns h).symm.trans (read_of_assigns hhost)
      rw [Bool.eq_false_iff]
      intro hsame
      have hkeys := (Text.lowerAscii_eq_iff.2 hsame).symm.trans (Line.option.inj hread).1
      exact absurd hkeys (by decide)
    exact hlast "a" ["port = 80".toList] "PORT = 81".toList ["hostname = h".toList] "PORT" "81"
      hport (by simpa using hlater)
  · exact hswap _ ["port = 1".toList, "[server a]".toList, "port = 80".toList] "PORT = 81".toList
      "hostname = h".toList ["[logging]".toList, "hostname = x".toList] "PORT" "81" "hostname" "h"
      (by decide +kernel) (by decide +kernel) hport hhost (by decide)

end Settings

end RemoteConsole
