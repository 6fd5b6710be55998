import BurnerByte.Go.Ascii
import BurnerByte.Go.IP

/-!
# Texts of IP addresses

`net.ParseIP`, `net.ParseCIDR` and `IP.String` on byte strings. An IPv6 text is cut at its first
`::`, whose place is filled with as many groups of zeros as are missing; its last field may be a
dotted IPv4 address. `IP.String` writes the longest run of zero groups as `::`, and the text is
read back to the same address whichever run it is.
-/

namespace Go

def dot : UInt8 := 46
def colon : UInt8 := 58
def percent : UInt8 := 37

/-! ## Numbers -/

def digitVal (b : UInt8) : Option Nat :=
  if 48 ≤ b ∧ b ≤ 57 then some (b.toNat - 48) else none

def hexVal (b : UInt8) : Option Nat :=
  if 48 ≤ b ∧ b ≤ 57 then some (b.toNat - 48)
  else if 97 ≤ b ∧ b ≤ 102 then some (b.toNat - 87)
  else if 65 ≤ b ∧ b ≤ 70 then some (b.toNat - 55)
  else none

/-- The number with the given digits, the highest first. -/
def value (base : Nat) (digits : List Nat) : Nat := digits.foldl (fun acc d => acc * base + d) 0

def readNumber (digit : UInt8 → Option Nat) (base : Nat) (s : Bytes) : Option Nat :=
  (s.mapM digit).map (value base)

/-- The byte of a digit, of a hexadecimal one in lower case. -/
def digitByte (d : Nat) : UInt8 := if d < 10 then (48 + d).toUInt8 else (87 + d).toUInt8

/-- The digits of a number below `base ^ width`, without leading zeros. -/
def shortDigits (base : Nat) : Nat → Nat → List Nat
  | 0, _ => []
  | width + 1, x =>
    if x < base then [x] else shortDigits base width (x / base) ++ [x % base]

/-- The lowest `width` digits of a number. -/
def lowDigits (base : Nat) : Nat → Nat → List Nat
  | 0, _ => []
  | width + 1, x => lowDigits base width (x / base) ++ [x % base]

def decimal (x : Nat) : Bytes := (shortDigits 10 3 x).map digitByte

def hexText (x : Nat) : Bytes := (shortDigits 16 4 x).map digitByte

theorem value_append_singleton (base : Nat) (ds : List Nat) (d : Nat) :
    value base (ds ++ [d]) = value base ds * base + d := by
  rw [value, List.foldl_append]
  rfl

variable {base x width d : Nat} {b : UInt8} {field s : Bytes} {groups : List Nat}

theorem value_shortDigits (width : Nat) (h : x < base ^ (width + 1)) :
    value base (shortDigits base (width + 1) x) = x := by
  induction width generalizing x with
  | zero =>
    rw [Nat.pow_one] at h
    rw [shortDigits, if_pos h]
    simp [value]
  | succ width ih =>
    rw [shortDigits]
    split
    · simp [value]
    have hdiv : x / base < base ^ (width + 1) := by
      apply Nat.div_lt_of_lt_mul
      rwa [← Nat.pow_succ']
    rw [value_append_singleton, ih hdiv]
    exact Nat.div_add_mod' x base

theorem lt_of_mem_shortDigits (hbase : 0 < base) (h : d ∈ shortDigits base width x) : d < base := by
  induction width generalizing x with
  | zero => cases h
  | succ width ih =>
    rw [shortDigits] at h
    split at h
    · rwa [List.mem_singleton.mp h]
    rcases List.mem_append.mp h with hd | hd
    · exact ih hd
    rw [List.mem_singleton.mp hd]
    exact Nat.mod_lt x hbase

theorem length_shortDigits_le (base width x : Nat) : (shortDigits base width x).length ≤ width := by
  induction width generalizing x with
  | zero => exact Nat.le_refl 0
  | succ width ih =>
    rw [shortDigits]
    split
    · exact Nat.succ_le_succ (Nat.zero_le width)
    rw [List.length_append]
    exact Nat.succ_le_succ (ih (x / base))

theorem shortDigits_ne_nil (base width x : Nat) : shortDigits base (width + 1) x ≠ [] := by
  rw [shortDigits]
  split
  · exact List.cons_ne_nil x []
  · exact List.append_ne_nil_of_right_ne_nil _ (List.cons_ne_nil _ _)

theorem value_lowDigits (base width x : Nat) :
    value base (lowDigits base width x) = x % base ^ width := by
  induction width generalizing x with
  | zero => simp [lowDigits, value, Nat.mod_one]
  | succ width ih =>
    rw [lowDigits, value_append_singleton, ih, Nat.pow_succ', Nat.mod_mul, Nat.mul_comm,
      Nat.add_comm]

theorem lt_of_mem_lowDigits (hbase : 0 < base) (h : d ∈ lowDigits base width x) : d < base := by
  induction width generalizing x with
  | zero => cases h
  | succ width ih =>
    rcases List.mem_append.mp h with hd | hd
    · exact ih hd
    rw [List.mem_singleton.mp hd]
    exact Nat.mod_lt x hbase

@[simp] theorem length_lowDigits (base width x : Nat) :
    (lowDigits base width x).length = width := by
  induction width generalizing x with
  | zero => rfl
  | succ width ih => rw [lowDigits, List.length_append, ih, List.length_singleton]

theorem hexVal_digitByte (h : d < 16) : hexVal (digitByte d) = some d := by
  revert d
  decide

variable {α β : Type} {xs : List α} {a : BitVec 128}

theorem mapM_map_eq_some {read : β → Option α} {write : α → β}
    (h : ∀ x ∈ xs, read (write x) = some x) : (xs.map write).mapM read = some xs := by
  induction xs with
  | nil => rfl
  | cons x xs ih =>
    rw [List.forall_mem_cons] at h
    rw [List.map_cons, List.mapM_cons, h.1, ih h.2]
    rfl

/-! ## Reading an address -/

/-- An octet of a dotted address: at most 255, without leading zeros. -/
def parseOctet (field : Bytes) : Option Nat :=
  if field = [] ∨ (field.head? = some 48 ∧ field.length ≠ 1) then none
  else (readNumber digitVal 10 field).filter (· ≤ 255)

/-- Go's `netip.parseIPv4`. -/
def parseIPv4 (s : Bytes) : Option (BitVec 32) :=
  match (s.splitOn dot).mapM parseOctet with
  | some [a, b, c, d] => some (BitVec.ofNat 32 (value 256 [a, b, c, d]))
  | _ => none

/-- A group of one to four hexadecimal digits. -/
def parseGroup (field : Bytes) : Option Nat :=
  if field = [] ∨ 4 < field.length then none else readNumber hexVal 16 field

/-- The fields of an IPv6 text, the last of which may be a dotted address. -/
def parseGroups : List Bytes → Option (List Nat)
  | [] => some []
  | [last] =>
    match parseGroup last with
    | some group => some [group]
    | none => (parseIPv4 last).map fun a => [a.toNat / 65536, a.toNat % 65536]
  | field :: next :: fields =>
    match parseGroup field, parseGroups (next :: fields) with
    | some group, some groups => some (group :: groups)
    | _, _ => none

/-- The texts before and after the first `::`. -/
def cutEllipsis : Bytes → Option (Bytes × Bytes)
  | [] => none
  | b :: rest =>
    if b = colon ∧ rest.head? = some colon then some ([], rest.tail)
    else (cutEllipsis rest).map fun p => (b :: p.1, p.2)

/-- The fields beside a `::`, which may be none. -/
def fieldsOf (s : Bytes) : List Bytes := if s = [] then [] else s.splitOn colon

/-- The address of eight groups. -/
def ofGroups (groups : List Nat) : BitVec 128 := BitVec.ofNat 128 (value 65536 groups)

/-- Go's `netip.parseIPv6`. A zone makes some field no group. -/
def parseIPv6 (s : Bytes) : Option (BitVec 128) :=
  match cutEllipsis s with
  | none => ((parseGroups (s.splitOn colon)).filter (·.length = 8)).map ofGroups
  | some (left, right) =>
    match (fieldsOf left).mapM parseGroup, parseGroups (fieldsOf right) with
    | some front, some back =>
      if front.length + back.length < 8 then
        some (ofGroups (front ++ List.replicate (8 - front.length - back.length) 0 ++ back))
      else none
    | _, _ => none

def isSeparator (b : UInt8) : Bool := b = dot || b = colon || b = percent

/-- Go's `netip.ParseAddr` for addresses without a zone. -/
def parseAddr (s : Bytes) : Option IP :=
  match s.find? isSeparator with
  | some b =>
    if b = dot then (parseIPv4 s).map .v4
    else if b = colon then (parseIPv6 s).map .v6
    else none
  | none => none

/-- Go's `net.ParseIP`, which gives the 16-byte form. -/
def parseIP (s : Bytes) : Option IP := (parseAddr s).map fun ip => .v6 ip.as16

/-- Go's `net.ParseCIDR`: the network. -/
def parseCIDR (s : Bytes) : Option IPNet :=
  match splitN2 s [slash] with
  | [addr, mask] =>
    match parseAddr addr, if mask = [] then none else readNumber digitVal 10 mask with
    | some (.v4 a), some ones =>
      if ones ≤ 32 then some (.v4 (a >>> (32 - ones) <<< (32 - ones)) ones) else none
    | some (.v6 a), some ones =>
      if ones ≤ 128 then some (.v6 (a >>> (128 - ones) <<< (128 - ones)) ones) else none
    | _, _ => none
  | _ => none

/-! ## What an accepted text is made of -/

/-- The bytes of addresses. -/
def isAddressByte (b : UInt8) : Bool := (hexVal b).isSome || b = dot || b = colon

theorem isSome_of_mem_mapM {f : α → Option β} {ys : List β} (h : xs.mapM f = some ys) {x : α}
    (hx : x ∈ xs) : (f x).isSome = true := by
  induction xs generalizing ys with
  | nil => cases hx
  | cons y xs ih =>
    rw [List.mapM_cons] at h
    obtain ⟨z, hz, hrest⟩ := Option.bind_eq_some_iff.mp h
    obtain ⟨zs, hzs, _⟩ := Option.bind_eq_some_iff.mp hrest
    rcases List.mem_cons.mp hx with rfl | hmem
    · rw [hz]
      rfl
    · exact ih hzs hmem

theorem isAddressByte_of_parseIPv4 {a : BitVec 32} (h : parseIPv4 s = some a) (hb : b ∈ s) :
    isAddressByte b = true := by
  cases hoctets : (s.splitOn dot).mapM parseOctet with
  | none => simp [parseIPv4, hoctets] at h
  | some octets =>
    rcases mem_of_mem_splitOn dot hb with rfl | ⟨field, hfield, hmem⟩
    · rfl
    obtain ⟨x, hx⟩ := Option.isSome_iff_exists.mp (isSome_of_mem_mapM hoctets hfield)
    unfold parseOctet at hx
    split at hx
    · cases hx
    obtain ⟨hread, _⟩ := Option.filter_eq_some_iff.mp hx
    obtain ⟨ds, hds, _⟩ := Option.map_eq_some_iff.mp hread
    have h := isSome_of_mem_mapM hds hmem
    have hdigit : 48 ≤ b ∧ b ≤ 57 := by simpa [digitVal] using h
    simp [isAddressByte, hexVal, hdigit]

theorem isAddressByte_of_parseGroup (h : parseGroup field = some x) (hb : b ∈ field) :
    isAddressByte b = true := by
  unfold parseGroup at h
  split at h
  · cases h
  obtain ⟨ds, hds, _⟩ := Option.map_eq_some_iff.mp h
  simp [isAddressByte, isSome_of_mem_mapM hds hb]

theorem isAddressByte_of_parseGroups {fields : List Bytes} (h : parseGroups fields = some groups)
    (hfield : field ∈ fields) (hb : b ∈ field) : isAddressByte b = true := by
  induction fields generalizing groups with
  | nil => cases hfield
  | cons first fields ih =>
    cases fields with
    | nil =>
      obtain rfl := List.mem_singleton.mp hfield
      rw [parseGroups] at h
      split at h
      · rename_i group hgroup
        exact isAddressByte_of_parseGroup hgroup hb
      · obtain ⟨a, ha, _⟩ := Option.map_eq_some_iff.mp h
        exact isAddressByte_of_parseIPv4 ha hb
    | cons next fields =>
      rw [parseGroups] at h
      split at h
      · rename_i group groups' hgroup hgroups
        rcases List.mem_cons.mp hfield with rfl | hlater
        · exact isAddressByte_of_parseGroup hgroup hb
        · exact ih hgroups hlater
      · cases h

theorem eq_of_cutEllipsis {left right : Bytes} (h : cutEllipsis s = some (left, right)) :
    s = left ++ colon :: colon :: right := by
  induction s generalizing left with
  | nil => cases h
  | cons b rest ih =>
    rw [cutEllipsis] at h
    split at h
    · rename_i hcolons
      obtain ⟨rfl, hhead⟩ := hcolons
      obtain ⟨later, rfl⟩ := List.head?_eq_some_iff.mp hhead
      cases h
      rfl
    obtain ⟨p, hp, heq⟩ := Option.map_eq_some_iff.mp h
    cases heq
    rw [ih hp]
    rfl

theorem isAddressByte_of_fieldsOf
    (h : ∀ field ∈ fieldsOf s, ∀ b ∈ field, isAddressByte b = true) (hb : b ∈ s) :
    isAddressByte b = true := by
  rw [fieldsOf, if_neg (List.ne_nil_of_mem hb)] at h
  rcases mem_of_mem_splitOn colon hb with rfl | ⟨field, hfield, hmem⟩
  · rfl
  · exact h field hfield b hmem

theorem isAddressByte_of_parseIPv6 (h : parseIPv6 s = some a) (hb : b ∈ s) :
    isAddressByte b = true := by
  unfold parseIPv6 at h
  split at h
  · obtain ⟨groups, hgroups, _⟩ := Option.map_eq_some_iff.mp h
    obtain ⟨hfields, _⟩ := Option.filter_eq_some_iff.mp hgroups
    rcases mem_of_mem_splitOn colon hb with rfl | ⟨field, hfield, hmem⟩
    · rfl
    · exact isAddressByte_of_parseGroups hfields hfield hmem
  rename_i left right hcut
  split at h
  · rename_i front back hfront hback
    rw [eq_of_cutEllipsis hcut] at hb
    simp only [List.mem_append, List.mem_cons] at hb
    rcases hb with hleft | rfl | rfl | hright
    · refine isAddressByte_of_fieldsOf (fun field hfield b hmem => ?_) hleft
      obtain ⟨x, hx⟩ := Option.isSome_iff_exists.mp (isSome_of_mem_mapM hfront hfield)
      exact isAddressByte_of_parseGroup hx hmem
    · rfl
    · rfl
    · refine isAddressByte_of_fieldsOf (fun _ hfield _ => ?_) hright
      exact isAddressByte_of_parseGroups hback hfield
  · cases h

/-- An address holds no white space, no comma, and no zone. -/
theorem isAddressByte_of_parseIP {ip : IP} (h : parseIP s = some ip) (hb : b ∈ s) :
    isAddressByte b = true := by
  obtain ⟨addr, haddr, _⟩ := Option.map_eq_some_iff.mp h
  unfold parseAddr at haddr
  split at haddr
  · split at haddr
    · obtain ⟨a, ha, _⟩ := Option.map_eq_some_iff.mp haddr
      exact isAddressByte_of_parseIPv4 ha hb
    split at haddr
    · obtain ⟨a, ha, _⟩ := Option.map_eq_some_iff.mp haddr
      exact isAddressByte_of_parseIPv6 ha hb
    · cases haddr
  · cases haddr

theorem isVisible_of_isAddressByte (h : isAddressByte b = true) : isVisible b = true := by
  have hall : ∀ n < 256, isAddressByte (UInt8.ofNat n) = true →
      isVisible (UInt8.ofNat n) = true := by
    decide +kernel
  have hb := hall b.toNat b.toNat_lt
  rw [UInt8.ofNat_toNat] at hb
  exact hb h

/-! ## Writing an address -/

def ipv4Text (a : BitVec 32) : Bytes :=
  [dot].intercalate ((lowDigits 256 4 a.toNat).map decimal)

/-- The first longest run of at least two zero groups, as its start and length; the length is
zero if there is none. -/
def zeroRun (groups : List Nat) : Nat × Nat :=
  (List.range groups.length).foldl
    (fun best i =>
      let length := ((groups.drop i).takeWhile (· = 0)).length
      if 2 ≤ length ∧ best.2 < length then (i, length) else best)
    (0, 0)

def joinGroups (groups : List Nat) : Bytes := [colon].intercalate (groups.map hexText)

/-- Eight groups, with a run of zeros left out. -/
def groupsText (groups : List Nat) (run : Nat × Nat) : Bytes :=
  if run.2 = 0 then joinGroups groups
  else joinGroups (groups.take run.1) ++ colon :: colon :: joinGroups (groups.drop (run.1 + run.2))

def ipv6Text (a : BitVec 128) : Bytes :=
  let groups := lowDigits 65536 8 a.toNat
  groupsText groups (zeroRun groups)

/-- Go's `IP.String`. -/
def IP.string (ip : IP) : Bytes :=
  match ip.to4 with
  | some a => ipv4Text a
  | none => ipv6Text ip.as16

example : (IP.v6 0x20010db8000000000000000000000001).string = lit "2001:db8::1" := by
  decide +kernel

example : parseIP (lit "::ffff:10.0.0.1") = parseIP (lit "10.0.0.1") := by decide +kernel

/-! ## Reading what was written -/

/-- The bytes of a number are digits. -/
theorem exists_of_mem_digits (hbase : 0 < base) (h : b ∈ (shortDigits base width x).map digitByte) :
    ∃ d < base, b = digitByte d := by
  obtain ⟨d, hd, rfl⟩ := List.mem_map.mp h
  exact ⟨d, lt_of_mem_shortDigits hbase hd, rfl⟩

/-- A digit is no separator. -/
theorem isSeparator_digitByte (h : d < 16) : isSeparator (digitByte d) = false := by
  revert d
  decide

theorem not_mem_digits (hpos : 0 < base) (hbase : base ≤ 16) (hb : isSeparator b = true) :
    b ∉ (shortDigits base width x).map digitByte := by
  intro h
  obtain ⟨d, hd, rfl⟩ := exists_of_mem_digits hpos h
  rw [isSeparator_digitByte (by omega)] at hb
  cases hb

theorem not_mem_hexText (hb : isSeparator b = true) (x : Nat) : b ∉ hexText x :=
  not_mem_digits (by decide) (by decide) hb

theorem parseOctet_decimal (h : x < 256) : parseOctet (decimal x) = some x := by
  revert x
  decide +kernel

theorem parseGroup_hexText (h : x < 65536) : parseGroup (hexText x) = some x := by
  have hcond : ¬ (hexText x = [] ∨ 4 < (hexText x).length) := by
    rintro (hnil | hlength)
    · exact shortDigits_ne_nil 16 3 x (List.map_eq_nil_iff.mp hnil)
    · rw [hexText, List.length_map] at hlength
      have hle := length_shortDigits_le 16 4 x
      omega
  rw [parseGroup, if_neg hcond, hexText, readNumber, mapM_map_eq_some fun d hd => hexVal_digitByte
    (lt_of_mem_shortDigits (by decide) hd), Option.map_some, value_shortDigits 3 (by omega)]

theorem parseIPv4_ipv4Text (a : BitVec 32) : parseIPv4 (ipv4Text a) = some a := by
  have hsplit : (ipv4Text a).splitOn dot = (lowDigits 256 4 a.toNat).map decimal := by
    apply List.splitOn_intercalate
    · rintro field hfield
      obtain ⟨x, _, rfl⟩ := List.mem_map.mp hfield
      exact not_mem_digits (by decide) (by decide) (by decide)
    · exact List.cons_ne_nil _ _
  have hoctets : ((lowDigits 256 4 a.toNat).map decimal).mapM parseOctet
      = some (lowDigits 256 4 a.toNat) :=
    mapM_map_eq_some fun x hx => parseOctet_decimal (lt_of_mem_lowDigits (by decide) hx)
  have hvalue := value_lowDigits 256 4 a.toNat
  rw [parseIPv4, hsplit, hoctets]
  change some (BitVec.ofNat 32 (value 256 (lowDigits 256 4 a.toNat))) = some a
  rw [hvalue]
  congr 1
  apply BitVec.eq_of_toNat_eq
  have hlt := a.isLt
  rw [BitVec.toNat_ofNat]
  omega

theorem parseGroups_map (h : ∀ g ∈ groups, g < 65536) :
    parseGroups (groups.map hexText) = some groups := by
  induction groups with
  | nil => rfl
  | cons g groups ih =>
    rw [List.forall_mem_cons] at h
    cases groups with
    | nil =>
      rw [List.map_singleton, parseGroups, parseGroup_hexText h.1]
    | cons next groups =>
      have hrest := ih h.2
      rw [List.map_cons] at hrest
      rw [List.map_cons, List.map_cons, parseGroups, parseGroup_hexText h.1, hrest]

/-! A text without two colons in a row is passed over in the search for `::`. -/

theorem cutEllipsis_append {front : Bytes} (h : colon ∉ front) (rest : Bytes) :
    cutEllipsis (front ++ rest) = (cutEllipsis rest).map fun p => (front ++ p.1, p.2) := by
  induction front with
  | nil => simp
  | cons b front ih =>
    rw [List.mem_cons, not_or] at h
    have hb : ¬ (b = colon ∧ (front ++ rest).head? = some colon) := fun hb => h.1 hb.1.symm
    rw [List.cons_append, cutEllipsis, if_neg hb, ih h.2, Option.map_map]
    rfl

theorem joinGroups_cons_cons (g next : Nat) (groups : List Nat) :
    joinGroups (g :: next :: groups) = hexText g ++ colon :: joinGroups (next :: groups) := by
  simp [joinGroups, List.intercalate_cons_cons]

theorem head?_joinGroups_ne (g : Nat) (groups : List Nat) (rest : Bytes) :
    (joinGroups (g :: groups) ++ rest).head? ≠ some colon := by
  obtain ⟨later, hlater⟩ : ∃ later, joinGroups (g :: groups) = hexText g ++ later := by
    cases groups with
    | nil => exact ⟨[], by simp [joinGroups]⟩
    | cons next groups => exact ⟨_, joinGroups_cons_cons g next groups⟩
  have hnil : hexText g ≠ [] := fun h => shortDigits_ne_nil 16 3 g (List.map_eq_nil_iff.mp h)
  rw [hlater, List.append_assoc, List.head?_append_of_ne_nil _ hnil]
  exact fun h => not_mem_hexText (by decide) g (List.mem_of_head? h)

theorem cutEllipsis_joinGroups (groups : List Nat) (rest : Bytes) :
    cutEllipsis (joinGroups groups ++ rest)
      = (cutEllipsis rest).map fun p => (joinGroups groups ++ p.1, p.2) := by
  induction groups with
  | nil => simp [joinGroups]
  | cons g groups ih =>
    have hg : colon ∉ hexText g := not_mem_hexText (by decide) g
    cases groups with
    | nil => simpa [joinGroups] using cutEllipsis_append hg rest
    | cons next groups =>
      have hcolon : ¬ (colon = colon ∧
          (joinGroups (next :: groups) ++ rest).head? = some colon) :=
        fun h => head?_joinGroups_ne next groups rest h.2
      rw [joinGroups_cons_cons, List.append_assoc, cutEllipsis_append hg, List.cons_append,
        cutEllipsis, if_neg hcolon, ih, Option.map_map, Option.map_map]
      congr 1
      funext p
      simp

theorem splitOn_joinGroups (h : groups ≠ []) :
    (joinGroups groups).splitOn colon = groups.map hexText := by
  apply List.splitOn_intercalate
  · rintro field hfield
    obtain ⟨x, _, rfl⟩ := List.mem_map.mp hfield
    exact not_mem_hexText (by decide) x
  · exact fun hnil => h (List.map_eq_nil_iff.mp hnil)

theorem fieldsOf_joinGroups (groups : List Nat) :
    fieldsOf (joinGroups groups) = groups.map hexText := by
  cases groups with
  | nil => rfl
  | cons g groups =>
    have hsplit := splitOn_joinGroups (List.cons_ne_nil g groups)
    have hne : joinGroups (g :: groups) ≠ [] := by
      intro hnil
      have hhead := (shortDigits_ne_nil 16 3 g)
      rw [hnil, List.map_cons] at hsplit
      have hfirst := (List.cons.inj hsplit).1
      exact hhead (List.map_eq_nil_iff.mp hfirst.symm)
    rw [fieldsOf, if_neg hne, hsplit]

/-- A run of zero groups that may be left out. -/
def IsRun (groups : List Nat) (run : Nat × Nat) : Prop :=
  run.2 = 0 ∨
    groups = groups.take run.1 ++ List.replicate run.2 0 ++ groups.drop (run.1 + run.2)

theorem isRun_zeroRun (groups : List Nat) : IsRun groups (zeroRun groups) := by
  apply List.foldlRecOn
  · exact .inl rfl
  · intro best hbest i _
    dsimp only
    split
    · generalize hzeros : (groups.drop i).takeWhile (· = 0) = zeros
      have hreplicate : zeros = List.replicate zeros.length 0 := by
        apply List.eq_replicate_of_mem
        intro g hg
        rw [← hzeros] at hg
        simpa using List.mem_takeWhile_imp hg
      obtain ⟨later, hlater⟩ : ∃ later, groups.drop i = zeros ++ later :=
        ⟨_, by rw [← hzeros, List.takeWhile_append_dropWhile]⟩
      have hdrop : groups.drop (i + zeros.length) = later := by
        rw [← List.drop_drop, hlater, List.drop_left]
      right
      rw [hdrop, ← hreplicate, List.append_assoc, ← hlater, List.take_append_drop]
    · exact hbest

theorem parseIPv6_groupsText {run : Nat × Nat} (hlength : groups.length = 8)
    (hgroups : ∀ g ∈ groups, g < 65536) (hrun : IsRun groups run) :
    parseIPv6 (groupsText groups run) = some (ofGroups groups) := by
  unfold groupsText
  split
  · have hne : groups ≠ [] := List.ne_nil_of_length_eq_add_one hlength
    have hcut := cutEllipsis_joinGroups groups []
    rw [List.append_nil] at hcut
    rw [parseIPv6, hcut, cutEllipsis, Option.map_none]
    simp [splitOn_joinGroups hne, parseGroups_map hgroups, hlength]
  rename_i hpos
  have hsplit := hrun.resolve_left hpos
  generalize hfront : groups.take run.1 = front at hsplit ⊢
  generalize hback : groups.drop (run.1 + run.2) = back at hsplit ⊢
  have hsum : front.length + run.2 + back.length = 8 := by
    rw [← hlength, hsplit]
    simp [Nat.add_assoc]
  have hfrontlt : ∀ g ∈ front, g < 65536 := by
    intro g hg
    rw [← hfront] at hg
    exact hgroups g (List.mem_of_mem_take hg)
  have hbacklt : ∀ g ∈ back, g < 65536 := by
    intro g hg
    rw [← hback] at hg
    exact hgroups g (List.mem_of_mem_drop hg)
  have hcut : cutEllipsis (joinGroups front ++ colon :: colon :: joinGroups back)
      = some (joinGroups front, joinGroups back) := by
    rw [cutEllipsis_joinGroups, cutEllipsis, if_pos ⟨rfl, rfl⟩]
    simp
  have hread : (front.map hexText).mapM parseGroup = some front :=
    mapM_map_eq_some fun g hg => parseGroup_hexText (hfrontlt g hg)
  have hfill : 8 - front.length - back.length = run.2 := by omega
  simp only [parseIPv6, hcut, fieldsOf_joinGroups, hread, parseGroups_map hbacklt, hfill]
  rw [if_pos (by omega), ← hsplit]

theorem parseIPv6_ipv6Text (a : BitVec 128) : parseIPv6 (ipv6Text a) = some a := by
  have hread := parseIPv6_groupsText (length_lowDigits 65536 8 a.toNat)
    (fun g hg => lt_of_mem_lowDigits (by decide) hg) (isRun_zeroRun (lowDigits 65536 8 a.toNat))
  have hself : ofGroups (lowDigits 65536 8 a.toNat) = a := by
    apply BitVec.eq_of_toNat_eq
    have hlt := a.isLt
    rw [ofGroups, value_lowDigits, BitVec.toNat_ofNat]
    omega
  rw [ipv6Text, hread, hself]

/-! The first separator of a text tells the family of its address. -/

theorem find?_isSeparator (hmem : sep ∈ s) (hsep : isSeparator sep = true)
    (hdigits : ∀ b ∈ s, b = sep ∨ ∃ d < 16, b = digitByte d) :
    s.find? isSeparator = some sep := by
  cases hfind : s.find? isSeparator with
  | none => exact absurd hsep (List.find?_eq_none.mp hfind sep hmem)
  | some c =>
    rcases hdigits c (List.mem_of_find?_eq_some hfind) with rfl | ⟨d, hd, rfl⟩
    · rfl
    · cases (isSeparator_digitByte hd).symm.trans (List.find?_some hfind)

/-- What stands in numbers that a separator joins. -/
theorem mem_joinDigits {xs : List Nat} (hpos : 0 < base) (hbase : base ≤ 16)
    (h : b ∈ [sep].intercalate (xs.map fun x => (shortDigits base width x).map digitByte)) :
    b = sep ∨ ∃ d < 16, b = digitByte d := by
  rcases mem_of_mem_intercalate h with hsep | ⟨text, htext, hb⟩
  · exact .inl hsep
  obtain ⟨x, _, rfl⟩ := List.mem_map.mp htext
  obtain ⟨d, hd, rfl⟩ := exists_of_mem_digits hpos hb
  exact .inr ⟨d, by omega, rfl⟩

theorem mem_ipv4Text {a : BitVec 32} (h : b ∈ ipv4Text a) : b = dot ∨ ∃ d < 16, b = digitByte d :=
  mem_joinDigits (Nat.succ_pos 9) (Nat.le_add_left 10 6) h

theorem mem_joinGroups (h : b ∈ joinGroups groups) : b = colon ∨ ∃ d < 16, b = digitByte d :=
  mem_joinDigits (Nat.succ_pos 15) le_rfl h

/-- What stands in the text of another IPv6 address. -/
theorem mem_ipv6Text (h : b ∈ ipv6Text a) : b = colon ∨ ∃ d < 16, b = digitByte d := by
  unfold ipv6Text groupsText at h
  dsimp only at h
  split at h
  · exact mem_joinGroups h
  simp only [List.mem_append, List.mem_cons] at h
  rcases h with hfront | rfl | rfl | hback
  · exact mem_joinGroups hfront
  · exact .inl rfl
  · exact .inl rfl
  · exact mem_joinGroups hback

theorem dot_mem_ipv4Text (a : BitVec 32) : dot ∈ ipv4Text a := by
  simp [ipv4Text, lowDigits, List.intercalate_cons_cons]

theorem colon_mem_ipv6Text (a : BitVec 128) : colon ∈ ipv6Text a := by
  unfold ipv6Text groupsText
  dsimp only
  split
  · simp [joinGroups, lowDigits, List.intercalate_cons_cons]
  · simp

theorem parseAddr_ipv4Text (a : BitVec 32) : parseAddr (ipv4Text a) = some (.v4 a) := by
  have hfind := find?_isSeparator (dot_mem_ipv4Text a) (by decide) fun _ => mem_ipv4Text
  rw [parseAddr, hfind]
  simp [parseIPv4_ipv4Text]

theorem parseAddr_ipv6Text (a : BitVec 128) : parseAddr (ipv6Text a) = some (.v6 a) := by
  have hfind := find?_isSeparator (colon_mem_ipv6Text a) (by decide) fun _ => mem_ipv6Text
  rw [parseAddr, hfind]
  simp [parseIPv6_ipv6Text, show colon ≠ dot by decide]

/-- The text of an address is read as that address. -/
theorem parseIP_string (ip : IP) : parseIP ip.string = some (.v6 ip.as16) := by
  unfold IP.string
  split
  · rename_i a ha
    rw [parseIP, parseAddr_ipv4Text, IP.to4_eq_some_iff.mp ha]
    rfl
  · rw [parseIP, parseAddr_ipv6Text]
    rfl

end Go
