import Mathlib.Data.List.Perm.Subperm
import RealityConsole.Framework.SortedMap
import RealityConsole.NodeHost.XrayConfig
import RealityConsole.Protocol.DesiredJson

/-!
# Traffic statistics of the managed Xray

The node runs the pinned Xray as a query program, reads its output up to a limit and pairs the two
counters of every user label. What the program prints is a parameter.
-/

namespace RealityConsole.NodeHost

open Framework Protocol

inductive StatsQueryError where
  | nonLoopbackEndpoint
  /-- The program printed more than the limit. -/
  | outputTooLarge
  | invalidOutput
  | tooManyCounters
  | inconsistentCounters

def statsQueryMaxOutputBytes : Nat := 1024 * 1024

def maxStats : Nat := 20000

/-- `RawValue`: a number, or a text that holds one. -/
inductive RawValue where
  | number (value : Int)
  | text (value : List Char)

structure RawStat where
  name : List Char
  value : RawValue

structure CounterPair where
  uplink : Option Int
  downlink : Option Int

structure UserTrafficCounter where
  email : List Char
  uplink : Int
  downlink : Int

/-! ### Counter names -/

/-- `str::split(">>>")` -/
def splitMarker : List Char → List (List Char)
  | '>' :: '>' :: '>' :: rest => [] :: splitMarker rest
  | c :: rest =>
    match splitMarker rest with
    | [] => [[c]]
    | part :: parts => (c :: part) :: parts
  | [] => [[]]

inductive Direction where
  | uplink
  | downlink
  deriving DecidableEq, Repr

def Direction.word : Direction → List Char
  | .uplink => "uplink".toList
  | .downlink => "downlink".toList

def parseDirection (word : List Char) : Option Direction :=
  if word = Direction.uplink.word then some .uplink
  else if word = Direction.downlink.word then some .downlink
  else none

/-- The label and the direction word of a name that has been split. -/
def counterParts : List (List Char) → Option (List Char × List Char)
  | [user, email, traffic, direction] =>
    if user = "user".toList ∧ traffic = "traffic".toList then some (email, direction) else none
  | _ => none

def parseCounterName (name : List Char) :
    Except StatsQueryError (List Char × List Char) :=
  if 256 < Json.bytes name then .error .inconsistentCounters
  else
    match counterParts (splitMarker name) with
    | none => .error .inconsistentCounters
    | some (email, direction) =>
      ((parseUserEmail email).mapError fun _ => .inconsistentCounters).map (·, direction)

/-! ### Values -/

/-- `i64::from_str` -/
def parseI64 : List Char → Option Int := parseSigned (2 ^ 63)

def RawValue.parse : RawValue → Except StatsQueryError Int
  | .number value => .ok value
  | .text value =>
    match parseI64 value with
    | none => .error .invalidOutput
    | some value => .ok value

/-! ### The counters -/

/-- The counters by label, in the order of the labels. -/
abbrev Counters := SortedMap (List Char) CounterPair

def Counters.entry (counters : Counters) (email : List Char) : CounterPair :=
  (SortedMap.lookup email counters).getD ⟨none, none⟩

def CounterPair.get (pair : CounterPair) : Direction → Option Int
  | .uplink => pair.uplink
  | .downlink => pair.downlink

def CounterPair.set (pair : CounterPair) (value : Int) : Direction → CounterPair
  | .uplink => { pair with uplink := some value }
  | .downlink => { pair with downlink := some value }

def Counters.fill (counters : Counters) (email word : List Char) (value : Int) :
    Except StatsQueryError Counters :=
  match parseDirection word with
  | none => .error .inconsistentCounters
  | some direction => do
    refuseWhen (((counters.entry email).get direction).isSome) .inconsistentCounters
    return SortedMap.store email ((counters.entry email).set value direction) counters

/-- The loop of `parse_stats`. -/
def collectStats : Counters → List RawStat → Except StatsQueryError Counters
  | counters, [] => .ok counters
  | counters, stat :: stats => do
    let parts ← parseCounterName stat.name
    let value ← stat.value.parse
    refuseWhen (value < 0) .inconsistentCounters
    let counters ← counters.fill parts.1 parts.2 value
    collectStats counters stats

/-- `parse_stats` of an output that is read as the given counters. -/
def parseStats (response : Option (List RawStat)) :
    Except StatsQueryError (List UserTrafficCounter) :=
  match response with
  | none => .error .invalidOutput
  | some stats => do
    refuseWhen (maxStats < stats.length) .tooManyCounters
    let counters ← collectStats [] stats
    return counters.map fun c => ⟨c.1, c.2.uplink.getD 0, c.2.downlink.getD 0⟩

/-! ### The query -/

/-- One counter that the running Xray keeps. -/
structure RuntimeCounter where
  name : List Char
  value : Nat

/-- The statistics query of the pinned Xray, and the JSON reader of its output. -/
structure StatsProgram where
  Output : Type
  /-- Whether values are printed as texts. -/
  quoted : Bool
  run : List RuntimeCounter → Output
  size : Output → Nat
  read : Output → Option (List RawStat)
  /-- What is read are the counters that were printed. -/
  read_run : ∀ counters : List RuntimeCounter,
    read (run counters) = some (counters.map fun c =>
      ⟨c.name, if quoted then .text (Json.number c.value) else .number c.value⟩)
  /-- A counter of 64 bits takes its escaped name and a frame of at most 256 bytes. -/
  size_run : ∀ counters : List RuntimeCounter, (∀ c ∈ counters, c.value < 2 ^ 63) →
    size (run counters) ≤ 64 + (counters.map fun c => 6 * Json.bytes c.name + 256).sum

/-- `query_user_traffic` while Xray keeps the given counters. -/
def queryUserTraffic (program : StatsProgram) (endpoint : SocketAddr)
    (counters : List RuntimeCounter) : Except StatsQueryError (List UserTrafficCounter) := do
  refuseWhen (¬endpoint.ip.isLoopback ∨ endpoint.port = 0) .nonLoopbackEndpoint
  let output := program.run counters
  refuseWhen (statsQueryMaxOutputBytes < program.size output) .outputTooLarge
  parseStats (program.read output)

/-- Two parts of a counter name with the marker between them. -/
def marked (part rest : List Char) : List Char := part ++ '>' :: '>' :: '>' :: rest

def counterName (email : List Char) (direction : Direction) : List Char :=
  marked "user".toList (marked email (marked "traffic".toList direction.word))

/-- The user counters that Xray can keep for the enabled users of a document: each at most once, and
each a 64-bit number. -/
structure KeptFor (users : List DesiredUser) (counters : List RuntimeCounter) : Prop where
  names : ∀ c ∈ counters, ∃ u ∈ users, u.enabled = true
    ∧ ∃ direction, c.name = counterName (userLabel u.userId) direction
  distinct : (counters.map (·.name)).Nodup
  values : ∀ c ∈ counters, c.value < 2 ^ 63

/-! ### Every counter of a member is read -/

theorem splitMarker_of_not_mem {text : List Char} (h : '>' ∉ text) : splitMarker text = [text] := by
  induction text with
  | nil => rfl
  | cons c text ih =>
    obtain ⟨hc, htext⟩ := not_or.1 (mt List.mem_cons.2 h)
    rw [splitMarker, ih htext]
    intro rest hmark _
    exact hc hmark.symm

theorem splitMarker_marked {text rest : List Char} (h : '>' ∉ text) :
    splitMarker (marked text rest) = text :: splitMarker rest := by
  unfold marked
  induction text with
  | nil => rw [List.nil_append, splitMarker]
  | cons c text ih =>
    obtain ⟨hc, htext⟩ := not_or.1 (mt List.mem_cons.2 h)
    rw [List.cons_append, splitMarker, ih htext]
    intro rest' hmark _
    exact hc hmark.symm

theorem bytes_marked (text rest : List Char) :
    Json.bytes (marked text rest) = Json.bytes text + 3 + Json.bytes rest := by
  have hmark : Char.utf8Size '>' = 1 := by decide
  simp only [marked, Json.bytes_append, Json.bytes_cons, hmark]
  omega

theorem mem_userLabel {user : UserId} {c : Char} (h : c ∈ userLabel user) :
    c ≠ '>' ∧ c.toNat < 128 := by
  have hfixed : ("user-".toList.all fun c => c ≠ '>' && c.toNat < 128) = true := by decide
  rcases List.mem_append.1 h with hfix | hid
  · simpa using List.all_eq_true.1 hfixed c hfix
  rcases Uuid.mem_text hid with hdig | rfl
  · refine ⟨?_, toNat_lt_of_isHexDigit hdig⟩
    rintro rfl
    exact absurd hdig (by decide)
  · decide

theorem bytes_counterName (user : UserId) (direction : Direction) :
    Json.bytes (counterName (userLabel user) direction) ≤ 69 := by
  have hlabel : Json.bytes (userLabel user) = 41 := by
    rw [Json.bytes_eq_length fun c hc => (mem_userLabel hc).2, length_userLabel]
  have hfixed : Json.bytes "user".toList = 4 ∧ Json.bytes "traffic".toList = 7 := by decide
  have hword : Json.bytes direction.word ≤ 8 := by cases direction <;> decide
  obtain ⟨huser, htraffic⟩ := hfixed
  rw [counterName, bytes_marked, bytes_marked, bytes_marked, huser, htraffic, hlabel]
  omega

theorem parseCounterName_counterName (user : UserId) (direction : Direction) :
    parseCounterName (counterName (userLabel user) direction)
      = .ok (userLabel user, direction.word) := by
  have hbs := bytes_counterName user direction
  have hword : '>' ∉ direction.word := by cases direction <;> decide
  have hsplit : splitMarker (counterName (userLabel user) direction)
      = ["user".toList, userLabel user, "traffic".toList, direction.word] := by
    rw [counterName, splitMarker_marked (by decide), splitMarker_marked fun hmem => (mem_userLabel
      hmem).1 rfl, splitMarker_marked (by decide), splitMarker_of_not_mem hword]
  unfold parseCounterName
  rw [if_neg (by omega), hsplit]
  simp only [counterParts, and_self, if_true, parseUserEmail_userLabel]
  rfl

theorem parseI64_number {n : Nat} (h : n < 2 ^ 63) : parseI64 (Json.number n) = some (n : Int) :=
  parseSigned_toDigits h

/-! ### The query succeeds -/

theorem Counters.entry_store (email other : List Char) (pair : CounterPair) (counters : Counters) :
    Counters.entry (SortedMap.store other pair counters) email
      = if email = other then pair else counters.entry email := by
  unfold Counters.entry
  rw [SortedMap.lookup_store]
  split <;> rfl

theorem CounterPair.get_set (pair : CounterPair) (value : Int) (direction other : Direction) :
    (pair.set value direction).get other
      = if other = direction then some value else pair.get other := by
  cases direction <;> cases other <;> rfl

theorem parseDirection_word (direction : Direction) :
    parseDirection direction.word = some direction := by cases direction <;> decide

def Counters.Empty (counters : Counters) (name : List Char) : Prop :=
  ∀ user direction, name = counterName (userLabel user) direction →
    (counters.entry (userLabel user)).get direction = none

variable {counters : List RuntimeCounter} {users : List DesiredUser}

/-- The loop accepts counters that are kept for members, if none of them has been seen. -/
theorem collectStats_ok (quoted : Bool) (h : KeptFor users counters) (seen : Counters)
    (hemp : ∀ c ∈ counters, seen.Empty c.name) :
    ∃ result, collectStats seen (counters.map fun c =>
      ⟨c.name, if quoted then .text (Json.number c.value) else .number c.value⟩) = .ok result := by
  induction counters generalizing seen with
  | nil => exact ⟨seen, rfl⟩
  | cons counter rest ih =>
    obtain ⟨u, -, -, direction, hname⟩ := h.names counter List.mem_cons_self
    have hvl : RawValue.parse
        (if quoted then .text (Json.number counter.value) else .number counter.value)
          = .ok (counter.value : Int) := by
      have hlt := h.values counter List.mem_cons_self
      cases quoted with
      | false => rfl
      | true => simp only [if_true, RawValue.parse, parseI64_number hlt]
    have hdist := List.nodup_cons.1 h.distinct
    have hslot := hemp counter List.mem_cons_self u.userId direction hname
    have hrest : KeptFor users rest :=
      { names := fun c hc => h.names c (List.mem_cons_of_mem counter hc)
        distinct := hdist.2
        values := fun c hc => h.values c (List.mem_cons_of_mem counter hc) }
    -- only the slot of `counter` is filled, and no later counter has its name
    obtain ⟨result, hres⟩ := ih hrest (SortedMap.store (userLabel u.userId)
        ((seen.entry (userLabel u.userId)).set counter.value direction) seen) (by
      intro c hc user other hoth
      rw [Counters.entry_store]
      by_cases hsame : userLabel user = userLabel u.userId
      · rw [if_pos hsame, CounterPair.get_set]
        by_cases hdirection : other = direction
        · have hmem : counter.name ∈ rest.map (·.name) :=
            List.mem_map.2 ⟨c, hc, by rw [hoth, hsame, hdirection, hname]⟩
          exact absurd hmem hdist.1
        · rw [if_neg hdirection, ← hsame]
          exact hemp c (List.mem_cons_of_mem counter hc) user other hoth
      · rw [if_neg hsame]
        exact hemp c (List.mem_cons_of_mem counter hc) user other hoth)
    refine ⟨result, ?_⟩
    simp only [List.map_cons, collectStats, hname, parseCounterName_counterName, ok_bind, hvl,
      Counters.fill, parseDirection_word, hslot, Option.isSome_none, bind_ok]
    exact ⟨(), refuse_ok.2 (by omega), _, ⟨(), refuse_ok.2 (by simp), rfl⟩, hres⟩

theorem KeptFor.length_le (h : KeptFor users counters) : counters.length ≤ 2 * users.length := by
  let names := users.flatMap fun u =>
    [counterName (userLabel u.userId) .uplink, counterName (userLabel u.userId) .downlink]
  have hsubset : counters.map (·.name) ⊆ names := by
    intro name hname
    obtain ⟨c, hc, rfl⟩ := List.mem_map.1 hname
    obtain ⟨u, hu, -, direction, hcounter⟩ := h.names c hc
    refine List.mem_flatMap.2 ⟨u, hu, ?_⟩
    rw [hcounter]
    cases direction with
    | uplink => exact .head _
    | downlink => exact .tail _ List.mem_cons_self
  have hlen := (h.distinct.subperm hsubset).length_le
  have hnames : names.length = 2 * users.length := by
    simp only [names, List.length_flatMap, List.length_cons, List.length_nil, List.map_const',
      List.sum_replicate, smul_eq_mul]
    omega
  rw [List.length_map] at hlen
  omega

theorem queryUserTraffic_ok {program : StatsProgram} {endpoint : SocketAddr}
    (hloopback : endpoint.ip.isLoopback) (hport : endpoint.port ≠ 0)
    (hkept : KeptFor users counters) (hcount : users.length ≤ 700) :
    ∃ result, queryUserTraffic program endpoint counters = .ok result := by
  have hlen := hkept.length_le
  have hsize : program.size (program.run counters) ≤ statsQueryMaxOutputBytes := by
    have hbound := List.sum_le_card_nsmul (counters.map fun c => 6 * Json.bytes c.name + 256) 670 ?_
    · have hrun := program.size_run counters hkept.values
      rw [List.length_map, smul_eq_mul] at hbound
      unfold statsQueryMaxOutputBytes
      omega
    · intro size hsize
      obtain ⟨c, hc, rfl⟩ := List.mem_map.1 hsize
      obtain ⟨u, -, -, direction, hname⟩ := hkept.names c hc
      have hbs := bytes_counterName u.userId direction
      rw [hname]
      omega
  obtain ⟨result, hres⟩ := collectStats_ok program.quoted hkept [] (by
    intro c _ user direction _
    cases direction <;> rfl)
  refine ⟨result.map fun c => ⟨c.1, c.2.uplink.getD 0, c.2.downlink.getD 0⟩, ?_⟩
  simp only [queryUserTraffic, program.read_run, parseStats, check_ok]
  refine ⟨refuse_ok.2 (by simp [hloopback, hport]),
    refuse_ok.2 (not_lt.2 hsize), refuse_ok.2 ?_, ?_⟩
  · rw [List.length_map, maxStats]
    omega
  · rw [hres]
    rfl

end RealityConsole.NodeHost
