import Telecontrol.Layout

/-!
# Lawful layouts

What the fields of an element have in common. Some bits of a field may be reserved, and a value may hold
more than its field can carry, so that writing and reading undo each other only up to that.

* `Octets.masked`: the octets of a string with only the bits that a mask has.
* `Layout.Lawful`: a field of fixed width reads what it wrote as a canonical value, writes what it read
  with the reserved bits cleared, and reads nothing from a string that is too short.
* `Layout.Lawful.read_front`: reading a string that goes on behind the field.
* `Layout.Lawful.followedBy`, `Layout.Lawful.map`: the laws of composed fields.
* `Layout.lawful_packed`, `Layout.Lawful.view`: the two kinds of composition that values need.
-/

namespace Telecontrol

namespace Octets

/-- The octets of a string with only the bits of `used`, as many octets as `used` has. -/
def masked (bs used : Octets) : Octets := List.zipWith (· &&& ·) bs used

theorem masked_masked (bs used used' : Octets) :
    (bs.masked used).masked used' = bs.masked (used.masked used') := by
  induction bs generalizing used used' with
  | nil => rfl
  | cons b bs ih =>
    cases used with
    | nil => rfl
    | cons u used =>
      cases used' with
      | nil => rfl
      | cons u' used' =>
        have hb : b &&& u &&& u' = b &&& (u &&& u') := UInt8.and_assoc b u u'
        have hbs : List.zipWith (· &&& ·) (List.zipWith (· &&& ·) bs used) used' =
            List.zipWith (· &&& ·) bs (List.zipWith (· &&& ·) used used') := ih used used'
        simp only [masked, List.zipWith_cons_cons, hb, hbs]

theorem masked_append {bs used : Octets} (h : bs.length = used.length) (bs' used' : Octets) :
    masked (bs ++ bs') (used ++ used') = bs.masked used ++ masked bs' used' :=
  List.zipWith_append h

theorem masked_full (bs : Octets) : bs.masked (List.replicate bs.length 0xFF) = bs := by
  induction bs with
  | nil => rfl
  | cons b bs ih =>
    have hb : b &&& 0xFF = b := UInt8.and_neg_one
    rw [List.length_cons, List.replicate_succ]
    unfold masked at ih ⊢
    rw [List.zipWith_cons_cons, hb, ih]

theorem ofNat_mod (w n : Nat) : ofNat w (n % Nat.pow 256 w) = ofNat w n := by
  have h := ofNat_toNat (ofNat w n)
  rwa [length_ofNat, toNat_ofNat] at h

end Octets

namespace Layout

variable {α β : Type}

/-- A field keeps a value up to `canonical`, and of its octets the bits of `used`. What it reads does not
depend on what follows its octets. -/
structure Lawful (field : Layout α) (canonical : α → α) (used : Octets) : Prop where
  length_used : used.length = field.size
  length_write (a : α) : (field.write a).length = field.size
  read_write (a : α) (rest : Octets) : field.read (field.write a ++ rest) = some (canonical a, rest)
  read_append (bs : Octets) : bs.length = field.size →
    ∃ a, (∀ rest, field.read (bs ++ rest) = some (a, rest)) ∧ field.write a = bs.masked used
  read_short (bs : Octets) : bs.length < field.size → field.read bs = none

/-- A field is read off the front of every string that is long enough. -/
theorem Lawful.read_front {field : Layout α} {canonical : α → α} {used bs : Octets}
    (h : field.Lawful canonical used) (hl : field.size ≤ bs.length) :
    ∃ a, (∀ more, field.read (bs ++ more) = some (a, bs.drop field.size ++ more)) ∧
      field.read bs = some (a, bs.drop field.size) ∧
      field.write a = Octets.masked (bs.take field.size) used := by
  obtain ⟨a, hread, hwrite⟩ := h.read_append (bs.take field.size) (List.length_take_of_le hl)
  refine ⟨a, ?_, ?_, hwrite⟩
  · intro more
    have hmore := hread (bs.drop field.size ++ more)
    rwa [← List.append_assoc, List.take_append_drop] at hmore
  · have hbs := hread (bs.drop field.size)
    rwa [List.take_append_drop] at hbs

/-! ## Primitive fields -/

theorem number_read (w : Nat) (bs : Octets) :
    (number w).read bs = (Octets.split? w bs).map fun (field, rest) => (field.toNat, rest) := rfl

theorem lawful_nothing : nothing.Lawful id [] where
  length_used := rfl
  length_write _ := rfl
  read_write _ _ := rfl
  read_append bs h := by
    obtain rfl := List.eq_nil_of_length_eq_zero h
    exact ⟨(), fun _ => rfl, rfl⟩
  read_short bs h := absurd h (Nat.not_lt_zero _)

theorem lawful_octet : octet.Lawful id [0xFF] where
  length_used := rfl
  length_write _ := rfl
  read_write _ _ := rfl
  read_append bs h := by
    obtain ⟨b, rfl⟩ := List.length_eq_one_iff.1 h
    have hb : [b] = Octets.masked [b] [0xFF] := (Octets.masked_full [b]).symm
    exact ⟨b, fun _ => rfl, hb⟩
  read_short bs h := by
    obtain rfl := List.eq_nil_of_length_eq_zero (Nat.lt_one_iff.1 h)
    rfl

theorem lawful_number (w : Nat) :
    (number w).Lawful (· % Nat.pow 256 w) (List.replicate w 0xFF) where
  length_used := List.length_replicate
  length_write n := Octets.length_ofNat w n
  read_write n rest := by
    have hs : Octets.split? w ((number w).write n ++ rest) = some ((number w).write n, rest) :=
      Octets.split?_append (Octets.length_ofNat w n) rest
    rw [number_read, hs, ← Octets.toNat_ofNat]
    rfl
  read_append bs h := by
    have hw : w = bs.length := h.symm
    subst hw
    refine ⟨bs.toNat, fun rest => ?_, ?_⟩
    · rw [number_read, Octets.split?_append rfl]
      rfl
    · rw [Octets.masked_full]
      exact Octets.ofNat_toNat bs
  read_short bs h := by
    have hs : Octets.split? w bs = none := Octets.split?_eq_none_iff.2 h
    rw [number_read, hs]
    rfl

/-! ## Composed fields -/

theorem map_read (field : Layout α) (view : α → β) (back : β → α) (bs : Octets) :
    (field.map view back).read bs = (field.read bs).map fun (a, rest) => (view a, rest) := rfl

theorem followedBy_write (first : Layout α) (second : Layout β) (ab : α × β) :
    (first.followedBy second).write ab = first.write ab.1 ++ second.write ab.2 := rfl

variable {field : Layout α} {first : Layout α} {second : Layout β} {canonical : α → α} {used : Octets}

theorem followedBy_read {a : α} {bs rest : Octets} (h : first.read bs = some (a, rest)) :
    (first.followedBy second).read bs =
      (second.read rest).map fun (b, rest) => ((a, b), rest) := by
  show (first.read bs >>= _) = _
  rw [h]
  cases hb : second.read rest with
  | none => simp [hb]
  | some b => simp [hb]

theorem followedBy_read_none {bs : Octets} (h : first.read bs = none) :
    (first.followedBy second).read bs = none := by
  show (first.read bs >>= _) = _
  rw [h]
  rfl

theorem Lawful.followedBy {canonical' : β → β} {used' : Octets} (h : first.Lawful canonical used)
    (h' : second.Lawful canonical' used') :
    (first.followedBy second).Lawful (Prod.map canonical canonical') (used ++ used') where
  length_used := by
    rw [List.length_append, h.length_used, h'.length_used]
    rfl
  length_write ab := by
    rw [followedBy_write, List.length_append, h.length_write, h'.length_write]
    rfl
  read_write ab rest := by
    rw [followedBy_write, List.append_assoc, followedBy_read (h.read_write ab.1 _), h'.read_write]
    rfl
  read_append bs hl := by
    have hsize : bs.length = first.size + second.size := hl
    have htake : (bs.take first.size).length = first.size := by
      rw [List.length_take]
      omega
    have hdrop : (bs.drop first.size).length = second.size := by
      rw [List.length_drop]
      omega
    obtain ⟨a, hra, hwa⟩ := h.read_append (bs.take first.size) htake
    obtain ⟨b, hrb, hwb⟩ := h'.read_append (bs.drop first.size) hdrop
    refine ⟨(a, b), fun rest => ?_, ?_⟩
    · -- The first field reads its part of `bs`, with the part of the second in front of the rest.
      have hfirst := hra (bs.drop first.size ++ rest)
      rw [← List.append_assoc, List.take_append_drop] at hfirst
      rw [followedBy_read hfirst, hrb]
      rfl
    · have hu : (bs.take first.size).length = used.length := by rw [htake, h.length_used]
      have := Octets.masked_append hu (bs.drop first.size) used'
      rw [List.take_append_drop] at this
      rw [this, ← hwa, ← hwb, followedBy_write]
  read_short bs hl := by
    have hsize : bs.length < first.size + second.size := hl
    by_cases hf : bs.length < first.size
    · exact followedBy_read_none (h.read_short bs hf)
    · -- Long enough for the first field, so the second is the one that lacks octets.
      have hdrop : (bs.drop first.size).length < second.size := by
        rw [List.length_drop]
        omega
      obtain ⟨a, -, hfirst, -⟩ := h.read_front (Nat.le_of_not_lt hf)
      rw [followedBy_read hfirst, h'.read_short _ hdrop]
      rfl

/-- A field seen as another type, where `used'` tells what is left of its octets. -/
theorem Lawful.map {view : α → β} {back : β → α} {canonical' : β → β} {used' : Octets}
    (h : field.Lawful canonical used) (hu : used'.length = used.length)
    (hc : ∀ b, view (canonical (back b)) = canonical' b)
    (hw : ∀ (bs : Octets) a, field.write a = bs.masked used →
      field.write (back (view a)) = bs.masked used') :
    (field.map view back).Lawful canonical' used' where
  length_used := hu.trans h.length_used
  length_write b := h.length_write (back b)
  read_write b rest := by
    have hr := h.read_write (back b) rest
    rw [map_read, ← hc b]
    exact congrArg (Option.map _) hr
  read_append bs hl := by
    obtain ⟨a, hr, ha⟩ := h.read_append bs hl
    refine ⟨view a, fun rest => ?_, hw bs a ha⟩
    rw [map_read, hr]
    rfl
  read_short bs hl := by
    rw [map_read, h.read_short bs hl]
    rfl

/-- A field seen as another type that holds exactly as much. -/
theorem Lawful.view {view : α → β} {back : β → α} {canonical' : β → β}
    (h : field.Lawful canonical used) (hb : ∀ a, back (view a) = a)
    (hc : ∀ b, view (canonical (back b)) = canonical' b) :
    (field.map view back).Lawful canonical' used := by
  refine h.map rfl hc fun bs a ha => ?_
  rw [hb a, ha]

/-- A value that is packed into the bits of `mask`. -/
theorem lawful_packed {view : UInt8 → α} {back : α → UInt8} {mask : UInt8}
    (hc : ∀ a, view (back a) = canonical a) (hb : ∀ b, back (view b) = b &&& mask) :
    (packed view back).Lawful canonical [mask] := by
  refine lawful_octet.map rfl hc fun bs b h => ?_
  have hm : Octets.masked [0xFF] [mask] = [mask] := by
    have hx : 0xFF &&& mask = mask := UInt8.neg_one_and
    exact congrArg (fun m => [m]) hx
  have h' : [b] = bs.masked [0xFF] := h
  have ht : Octets.masked [b] [mask] = bs.masked [mask] := by rw [h', Octets.masked_masked, hm]
  rw [← ht]
  exact congrArg (fun m => [m]) (hb b)

/-- The words whose numbers are those below `256 ^ w` fill a field of `w` octets. -/
theorem lawful_word {w : Nat} {ofNat : Nat → α} {toNat : α → Nat}
    (hn : ∀ n, toNat (ofNat n) = n % Nat.pow 256 w) (hx : ∀ x, ofNat (toNat x) = x) :
    ((number w).map ofNat toNat).Lawful id (List.replicate w 0xFF) := by
  refine (lawful_number w).map rfl (fun x => ?_) fun bs n h => ?_
  · rw [← hn, hx, hx]
    rfl
  · rw [hn]
    exact (Octets.ofNat_mod w n).trans h

theorem lawful_word16 : word16.Lawful id [0xFF, 0xFF] :=
  lawful_word (fun _ => UInt16.toNat_ofNat') fun _ => UInt16.ofNat_toNat

theorem lawful_word32 : word32.Lawful id [0xFF, 0xFF, 0xFF, 0xFF] :=
  lawful_word (fun _ => UInt32.toNat_ofNat') fun _ => UInt32.ofNat_toNat

end Layout

end Telecontrol
