import Mathlib.Tactic
import GuardTime.Discovery.Scan

/-! # Spellings of a MAC address

The requests that register a device take a MAC address in any letter case, with `:` or `-` between
its bytes, and store it as it is given. A discovery report is put in lower case before it is looked
up, a request to block a device is looked up as it is, and both are compared with the stored text.

* `Spelling`: the accepted texts; two of them mean the same address when they have the same bytes;
* `text_eq_lower_iff`: when a stored text is the lower-case form of another spelling;
* `recognised_iff`: which requests reach a device, for every spelling of its address. -/

namespace GuardTime.Discovery

open GuardTime.Lib.Program GuardTime.Lib.Keyed GuardTime.Lib.Js GuardTime.Schema GuardTime.Server
open GuardTime.Prisma GuardTime.Services GuardTime.Services.Gateways
open GuardTime.Pairing.Discovery (found)

/-! ### Texts -/

/-- What stands between the bytes. -/
inductive Separator where
  | colon | hyphen
deriving DecidableEq

def Separator.char : Separator → Char
  | colon => ':'
  | hyphen => '-'

def hexDigits : List Char := "0123456789abcdefABCDEF".toList

/-- The value of a digit. -/
def digitValue (c : Char) : ℕ := "0123456789abcdef".toList.idxOf c.toLower

/-- The pairs of digits with the separator between them. -/
def spell (sep : Char) : List (Char × Char) → List Char
  | [] => []
  | [p] => [p.1, p.2]
  | p :: q :: ps => p.1 :: p.2 :: sep :: spell sep (q :: ps)

/-- A MAC address as `IsMACAddress` accepts it: six pairs of hexadecimal digits. -/
structure Spelling where
  separator : Separator
  pairs : List (Char × Char)
  six : pairs.length = 6
  hex : ∀ p ∈ pairs, p.1 ∈ hexDigits ∧ p.2 ∈ hexDigits

namespace Spelling

def text (s : Spelling) : String := String.ofList (spell s.separator.char s.pairs)

/-- The six bytes. -/
def bytes (s : Spelling) : List ℕ := s.pairs.map fun p => 16 * digitValue p.1 + digitValue p.2

/-- No digit is an upper-case letter. -/
def LowerCase (s : Spelling) : Prop := ∀ p ∈ s.pairs, p.1.toLower = p.1 ∧ p.2.toLower = p.2

end Spelling

/-- `toLowerCase` on ASCII texts. -/
def AsciiLower (env : Env) : Prop :=
  ∀ s : String, (∀ c ∈ s.toList, c.toNat < 128) →
    env.toLowerCase s = String.ofList (s.toList.map Char.toLower)

/-! ### Digits -/

/-- What holds of every digit, checked digit by digit. -/
theorem forall_hexDigits {P : Char → Prop} [DecidablePred P]
    (h : (hexDigits.all fun c => decide (P c)) = true) : ∀ c ∈ hexDigits, P c :=
  fun c hc => of_decide_eq_true (List.all_eq_true.mp h c hc)

theorem digitValue_lt : ∀ c ∈ hexDigits, digitValue c < 16 := forall_hexDigits (by decide +kernel)

theorem ascii_of_hex : ∀ c ∈ hexDigits, c.toNat < 128 := forall_hexDigits (by decide +kernel)

/-- Digits of the same value differ in case only. -/
theorem toLower_eq_of_value : ∀ c ∈ hexDigits, ∀ c' ∈ hexDigits,
    digitValue c = digitValue c' → c.toLower = c'.toLower := by
  intro c hc
  have hall : (hexDigits.all fun c => hexDigits.all fun c' =>
      decide (digitValue c = digitValue c' → c.toLower = c'.toLower)) = true := by decide +kernel
  exact forall_hexDigits (List.all_eq_true.mp hall c hc)

/-! ### Spellings -/

section Spell
variable {sep sep' : Char} {ps ps' : List (Char × Char)}

theorem mem_spell {c : Char} (h : c ∈ spell sep ps) :
    c = sep ∨ ∃ p ∈ ps, c = p.1 ∨ c = p.2 := by
  induction ps using spell.induct with
  | case1 => cases h
  | case2 p =>
    simp only [spell, List.mem_cons, List.not_mem_nil, or_false] at h
    exact .inr ⟨p, by simp, h⟩
  | case3 p q ps ih =>
    simp only [spell, List.mem_cons] at h
    rcases h with rfl | rfl | rfl | h
    · exact .inr ⟨p, by simp, .inl rfl⟩
    · exact .inr ⟨p, by simp, .inr rfl⟩
    · exact .inl rfl
    · rcases ih h with rfl | ⟨r, hr, hc⟩
      · exact .inl rfl
      · exact .inr ⟨r, List.mem_cons_of_mem _ hr, hc⟩

theorem map_spell (f : Char → Char) :
    (spell sep ps).map f = spell (f sep) (ps.map fun p => (f p.1, f p.2)) := by
  induction ps using spell.induct with
  | case1 => rfl
  | case2 p => rfl
  | case3 p q ps ih =>
    simp only [spell, List.map_cons] at ih ⊢
    rw [ih]

/-- The text determines its digits and, with two bytes or more, its separator. -/
theorem spell_inj (hlen : ps.length = ps'.length) (h : spell sep ps = spell sep' ps') :
    ps = ps' ∧ (1 < ps.length → sep = sep') := by
  induction ps using spell.induct generalizing ps' with
  | case1 => exact ⟨(List.length_eq_zero_iff.mp hlen.symm).symm, by simp⟩
  | case2 p =>
    obtain ⟨p', rfl⟩ := List.length_eq_one_iff.mp hlen.symm
    simp only [spell, List.cons.injEq, and_true] at h
    exact ⟨by rw [Prod.ext h.1 h.2], by simp⟩
  | case3 p q ps ih =>
    match ps', hlen, h with
    | p' :: q' :: ps', hlen, h =>
      simp only [spell, List.cons.injEq] at h
      obtain ⟨h1, h2, hsep, hrest⟩ := h
      obtain ⟨heq, -⟩ := ih (by simpa using hlen) hrest
      exact ⟨by rw [Prod.ext h1 h2, heq], fun _ => hsep⟩

end Spell

section Spelling
variable {s s' : Spelling}

theorem Separator.char_inj {a b : Separator} (h : a.char = b.char) : a = b := by
  cases a <;> cases b <;> first | rfl | exact absurd h (by decide)

theorem text_inj (h : s.text = s'.text) : s = s' := by
  have hlen : s.pairs.length = s'.pairs.length := s.six.trans s'.six.symm
  obtain ⟨hpairs, hsep⟩ := spell_inj hlen (String.ofList_injective h)
  have hchar := hsep (by rw [s.six]; decide)
  cases s
  cases s'
  cases hpairs
  cases Separator.char_inj hchar
  rfl

/-- The digits of two spellings of the same bytes, in lower case. -/
theorem lower_pairs (h : s.bytes = s'.bytes) :
    s.pairs.map (fun p => (p.1.toLower, p.2.toLower)) =
      s'.pairs.map fun p => (p.1.toLower, p.2.toLower) := by
  have hlen : s.pairs.length = s'.pairs.length := s.six.trans s'.six.symm
  refine List.ext_getElem (by simpa using hlen) fun i hi hi' => ?_
  rw [List.getElem_map, List.getElem_map]
  rw [List.length_map] at hi hi'
  have hbyte : 16 * digitValue s.pairs[i].1 + digitValue s.pairs[i].2 =
      16 * digitValue s'.pairs[i].1 + digitValue s'.pairs[i].2 := by
    have hget := congrArg (fun l : List ℕ => l[i]?) h
    simpa [Spelling.bytes, hi, hi'] using hget
  obtain ⟨hx, hy⟩ := s.hex _ (List.getElem_mem hi)
  obtain ⟨hx', hy'⟩ := s'.hex _ (List.getElem_mem hi')
  have hlt := digitValue_lt _ hy
  have hlt' := digitValue_lt _ hy'
  rw [toLower_eq_of_value _ hx _ hx' (by omega), toLower_eq_of_value _ hy _ hy' (by omega)]

theorem lowerCase_iff :
    s.LowerCase ↔ s.pairs.map (fun p => (p.1.toLower, p.2.toLower)) = s.pairs := by
  have hid : s.pairs.map (fun p => (p.1.toLower, p.2.toLower)) = s.pairs ↔
      s.pairs.map (fun p => (p.1.toLower, p.2.toLower)) = s.pairs.map id := by rw [List.map_id]
  rw [hid, List.map_inj_left]
  refine forall₂_congr fun p _ => ?_
  rw [id, Prod.ext_iff]

theorem text_ascii (s : Spelling) : ∀ c ∈ s.text.toList, c.toNat < 128 := by
  intro c hc
  rw [Spelling.text, String.toList_ofList] at hc
  rcases mem_spell hc with rfl | ⟨p, hp, rfl | rfl⟩
  · cases s.separator <;> decide
  · exact ascii_of_hex _ (s.hex p hp).1
  · exact ascii_of_hex _ (s.hex p hp).2

theorem toLowerCase_text {env : Env} (hlower : AsciiLower env) (s : Spelling) :
    env.toLowerCase s.text = String.ofList (spell s.separator.char
      (s.pairs.map fun p => (p.1.toLower, p.2.toLower))) := by
  have hsep : s.separator.char.toLower = s.separator.char := by
    cases s.separator <;> decide
  rw [hlower _ (text_ascii s), Spelling.text, String.toList_ofList, map_spell, hsep]

/-- A stored text is what another spelling of its bytes looks like in lower case. -/
theorem text_eq_lower_iff {env : Env} (hlower : AsciiLower env) (h : s.bytes = s'.bytes) :
    s.text = env.toLowerCase s'.text ↔ s.LowerCase ∧ s.separator = s'.separator := by
  rw [toLowerCase_text hlower, ← lower_pairs h, lowerCase_iff]
  constructor
  · intro htext
    obtain ⟨hpairs, hsep⟩ := spell_inj (by simp) (String.ofList_injective htext)
    exact ⟨hpairs.symm, Separator.char_inj (hsep (by rw [s.six]; decide))⟩
  · rintro ⟨hpairs, hsep⟩
    rw [hpairs, ← hsep]
    rfl

end Spelling

/-! ### Writers -/

/-- The requests that register a device or change it. -/
inductive Writer where
  | create (parentId : String) (dto : Devices.CreateDeviceDto)
  | update (parentId id : String) (dto : Devices.UpdateDeviceDto)
  | registerDevice (parentId : String) (dto : ChildAgent.RegisterDeviceDto)

def Writer.prog : Writer → Api Device
  | create p dto => Devices.create p dto
  | update p id dto => Devices.update p id dto
  | registerDevice p dto => ChildAgent.registerDevice p dto

/-- The MAC address in the request. -/
def Writer.macAddress : Writer → Option String
  | create _ dto => dto.macAddress
  | update _ _ dto => dto.macAddress.getD none
  | registerDevice _ dto => dto.macAddress

/-- The row of a device after an update of it. -/
theorem updated_row {k : String} {f : Device → Device} {hf : ∀ d, (f d).id = d.id} {w w' : World}
    {x : Device} (h : (Prisma.update .device k f hf).run w = (.ok x, w')) :
    ∃ r, w.db.devices.find k = some r ∧ x = Model.device.touch w.now (f r) ∧
      w'.db.devices.find k = some x := by
  rcases run_update_cases .device k f hf w with ⟨e, hrun⟩ | ⟨r, hr, hrun⟩ <;>
    cases hrun.symm.trans h
  refine ⟨r, hr, rfl, ?_⟩
  change (Model.device.patch (Model.device.get w.db) w.now k f hf).find k = _
  rw [Model.find_patch_self, hr]
  rfl

/-- Every writer stores the MAC address as it is given. -/
theorem stored_as_given {wr : Writer} {m : String} (hm : wr.macAddress = some m) {w w' : World}
    {x : Device} (hrun : wr.prog.run w = (.ok x, w')) :
    ∃ d, w'.db.devices.find x.id = some d ∧ d.macAddress = some m := by
  cases wr with
  | create p dto =>
    obtain ⟨d, w₁, hcreate, hret⟩ := Prog.run_bind_ok.mp hrun
    cases hret
    obtain ⟨rfl, -, t, ht, rfl⟩ := run_create_ok hcreate
    exact ⟨_, Table.find_insert ht, hm⟩
  | registerDevice p dto =>
    obtain ⟨d, w₁, hdate, hcreate⟩ := Prog.run_bind_ok.mp hrun
    obtain ⟨rfl, -, t, ht, rfl⟩ := run_create_ok hcreate
    exact ⟨_, Table.find_insert ht, hm⟩
  | update p id dto =>
    obtain ⟨_, w₁, -, hrest⟩ := Prog.run_bind_ok.mp hrun
    obtain ⟨_, w₂, -, hrest⟩ := Prog.run_bind_ok.mp hrest
    obtain ⟨d, w₃, hupdate, hret⟩ := Prog.run_bind_ok.mp hrest
    cases hret
    obtain ⟨r, -, hx, hrow⟩ := updated_row hupdate
    have hid : d.id = id := Table.key_of_find hrow
    refine ⟨d, by rw [← hid] at hrow; exact hrow, ?_⟩
    have hmac : d.macAddress = dto.macAddress.over r.macAddress := congrArg Device.macAddress hx
    rw [hmac]
    rcases hdto : dto.macAddress with _ | v
    · simp [Writer.macAddress, hdto] at hm
    · simpa [Writer.macAddress, hdto, Patch.over] using hm

/-! ### Readers -/

/-- The device that `blockDevice` and `unblockDevice` act on, in the world in which they look it
up. -/
def targeted (g deviceMac : String) (w : World) : Option Device :=
  (matching .device w.db (w.tape w.calls) fun d =>
    d.macAddress = some deviceMac && d.gatewayId = some g).head?

/-- They act on it, or fail. -/
theorem run_setStatus (g deviceMac : String) (status : DeviceStatus) {w : World}
    (hg : w.db.gateways.find g ≠ none) :
    ((setStatus g deviceMac status).run w).2.db.devices =
      match targeted g deviceMac (World.afterCall w w.db) with
      | none => w.db.devices
      | some d => Model.device.patch w.db.devices w.now d.id (fun d => { d with status := status })
          (fun _ => rfl) := by
  obtain ⟨gateway, hgateway⟩ := Option.ne_none_iff_exists'.mp hg
  have hfind : (findGateway g).run w = (.ok gateway, World.afterCall w w.db) := by
    simp [findGateway, Model.gateway, hgateway]
  rcases htarget : targeted g deviceMac (World.afterCall w w.db) with _ | d
  · rw [targeted] at htarget
    simp only [setStatus, Prog.run_bind, hfind, run_findFirst, htarget]
    rfl
  · have hrow : (Model.device.get w.db).find d.id = some d :=
      Table.find_key (of_head_matching htarget).1
    rw [targeted] at htarget
    have hupdate : (Prisma.update .device d.id fun d => { d with status := status }).run
        (World.afterCall (World.afterCall w w.db) w.db) = _ := run_update hrow rfl rfl
    simp only [setStatus, Prog.run_bind, hfind, run_findFirst, htarget]
    rw [show Prog.orThrow (some d) (Err.notFound "Device not found on this gateway") =
      (pure d : Api Device) from rfl]
    simp only [Prog.run_pure]
    rw [show (World.afterCall (World.afterCall w w.db) (World.afterCall w w.db).db) =
      World.afterCall (World.afterCall w w.db) w.db from rfl, hupdate]
    rfl

/-- Some order of the rows makes any matching device the first. -/
theorem exists_head (w : World) (p : Device → Bool) {d : Device} (hd : d ∈ w.db.devices.rows)
    (hp : p d = true) :
    ∃ tape : ℕ → ℕ, (matching .device w.db (tape w.calls) p).head? = some d := by
  obtain ⟨n, hn⟩ := exists_arrange_head (List.mem_filter.mpr ⟨hd, hp⟩)
  exact ⟨fun _ => n, hn⟩

section Readers
variable {env : Env} {w : World} {g m : String} {d : Device}

/-- Every report with the MAC address may be taken for the device, whatever else it carries. -/
theorem reported_iff (hd : d ∈ w.db.devices.rows) (hg : d.gatewayId = some g)
    (hm : d.macAddress = some m) (m' : String) :
    (∀ e : DiscoveredDevice, e.macAddress = m' →
      ∃ tape : ℕ → ℕ, found env g { w with tape := tape } e = some d) ↔ m = env.toLowerCase m' := by
  constructor
  · intro h
    obtain ⟨tape, hfound⟩ := h { ipAddress := "", macAddress := m' } rfl
    have hfinds := finds_found env g { w with tape := tape } { ipAddress := "", macAddress := m' }
    rw [hfound] at hfinds
    cases hfinds with
    | byMac _ _ hmac => exact Option.some.inj (hm.symm.trans hmac)
    | byHost _ _ _ hhost =>
      -- the report carries no hostname
      obtain ⟨_, _, hh, -⟩ := hhost
      cases hh
  · rintro rfl e rfl
    obtain ⟨tape, hhead⟩ := exists_head w (fun d => d.gatewayId = some g &&
      d.macAddress = some (env.toLowerCase e.macAddress)) hd (by simp [hg, hm])
    refine ⟨tape, ?_⟩
    unfold found
    simp only
    rw [hhead]

theorem targeted_iff (hd : d ∈ w.db.devices.rows) (hg : d.gatewayId = some g)
    (hm : d.macAddress = some m) (m' : String) :
    (∃ tape : ℕ → ℕ, targeted g m' { w with tape := tape } = some d) ↔ m = m' := by
  constructor
  · rintro ⟨tape, htarget⟩
    have hp := (of_head_matching htarget).2
    simp only [Bool.and_eq_true, decide_eq_true_eq] at hp
    exact Option.some.inj (hm.symm.trans hp.1)
  · rintro rfl
    exact exists_head w (fun d => d.macAddress = some m && d.gatewayId = some g) hd
      (by simp [hg, hm])

end Readers

/-- **Which spellings are recognised.** The writers store the MAC address in the spelling of the
request. Another spelling of it in a discovery report reaches the device exactly when the stored one
is in lower case and has the same separator; in a request to block or unblock the device, only the
stored spelling itself does. -/
theorem recognised_iff {env : Env} (hlower : AsciiLower env) {s s' : Spelling}
    (hsame : s.bytes = s'.bytes) :
    (∀ (wr : Writer) (w w' : World) (x : Device), wr.macAddress = some s.text →
      wr.prog.run w = (.ok x, w') →
      ∃ d, w'.db.devices.find x.id = some d ∧ d.macAddress = some s.text) ∧
    ∀ (w : World) (g : String) (d : Device), d ∈ w.db.devices.rows → d.gatewayId = some g →
      d.macAddress = some s.text →
      ((∀ e : DiscoveredDevice, e.macAddress = s'.text →
          ∃ tape : ℕ → ℕ, found env g { w with tape := tape } e = some d) ↔
        s.LowerCase ∧ s.separator = s'.separator) ∧
      ((∃ tape : ℕ → ℕ, targeted g s'.text { w with tape := tape } = some d) ↔ s' = s) := by
  refine ⟨fun wr w w' x hm hrun => stored_as_given hm hrun, fun w g d hd hg hm => ⟨?_, ?_⟩⟩
  · rw [reported_iff hd hg hm, text_eq_lower_iff hlower hsame]
  · rw [targeted_iff hd hg hm]
    constructor
    · intro htext
      exact (text_inj htext).symm
    · rintro rfl
      rfl

/-- The address the documentation of the request gives as its example. -/
def upperCase : Spelling where
  separator := .colon
  pairs := [('A', 'A'), ('B', 'B'), ('C', 'C'), ('D', 'D'), ('E', 'E'), ('F', 'F')]
  six := rfl
  hex := by decide

/-- The same address as a gateway reports it. -/
def lowerCase : Spelling where
  separator := .colon
  pairs := [('a', 'a'), ('b', 'b'), ('c', 'c'), ('d', 'd'), ('e', 'e'), ('f', 'f')]
  six := rfl
  hex := by decide

theorem asciiLower_plain : AsciiLower .plain := fun _ _ => rfl

/-- A phone registered under the address. -/
def phoneWith (s : Spelling) : Device :=
  { Household.device "phone" "amal" "adam" with
    gatewayId := some "ga", macAddress := some s.text }

/-- The household with it. -/
def phoneWorld (s : Spelling) : World :=
  .fresh (Household.withDevices [phoneWith s] (by simp)) 0

theorem recognised_iff_lowerCase :
    lowerCase.text = "aa:bb:cc:dd:ee:ff" ∧ lowerCase.LowerCase ∧
    (∀ e : DiscoveredDevice, e.macAddress = upperCase.text → ∃ tape : ℕ → ℕ,
      found .plain "ga" { phoneWorld lowerCase with tape := tape } e =
        some (phoneWith lowerCase)) := by
  have hlow : lowerCase.LowerCase := by
    unfold Spelling.LowerCase
    decide
  refine ⟨by decide, hlow, ?_⟩
  have hsame : lowerCase.bytes = upperCase.bytes := by decide
  have hiff := (recognised_iff asciiLower_plain hsame).2 (phoneWorld lowerCase) "ga"
    (phoneWith lowerCase) (by simp [phoneWorld, World.fresh, Household.withDevices]) rfl rfl
  exact hiff.1.mpr ⟨hlow, rfl⟩

/-- A device registered with the address of the documentation is missed by a report about it, and by
a request to block it in lower case. -/
theorem upper_case_missed : ¬ ∀ (env : Env), AsciiLower env → ∀ s s' : Spelling,
    s.bytes = s'.bytes → ∀ (wr : Writer) (w w' : World) (x d : Device) (g : String),
    wr.macAddress = some s.text → wr.prog.run w = (.ok x, w') → w'.db.devices.find x.id = some d →
    d.gatewayId = some g →
    (∀ e : DiscoveredDevice, e.macAddress = s'.text →
      ∃ tape : ℕ → ℕ, found env g { w' with tape := tape } e = some d) ∧
    ∃ tape : ℕ → ℕ, targeted g s'.text { w' with tape := tape } = some d := by
  intro h
  let dto : Devices.CreateDeviceDto :=
    { childId := "adam", name := "phone", type := .androidPhone, macAddress := some upperCase.text,
      gatewayId := some "ga" }
  let w : World := .fresh (Household.withDevices [] (by simp)) 0
  let row : Device :=
    { Devices.newDevice (w.uuids 0 0) "amal" (some "adam") "phone" .androidPhone 0 with
      macAddress := some upperCase.text, gatewayId := some "ga" }
  have hall := h .plain asciiLower_plain upperCase lowerCase (by decide) (.create "amal" dto) w
    _ row row "ga" rfl rfl (Table.find_eq_some.mpr ⟨List.mem_singleton.mpr rfl, rfl⟩) rfl
  obtain ⟨tape, htarget⟩ := hall.2
  have hp := (of_head_matching htarget).2
  exact absurd hp (by decide)

end GuardTime.Discovery
