import Telecontrol.Proofs.Element.Codec
import Telecontrol.Proofs.Machine.Frame

/-!
# Elements, octet by octet

How a machine reads the element of an object. The fields of a record are read at positions that are counted
on; a record looks first whether all of them are there. A time tag is read behind the value without looking
again, because whoever reads an element has looked.

* `Machine.Field`: a field as a machine reads it. `Machine.Field.whole` is copied out of the string at once,
  `Machine.Field.record` is made of `Machine.Fields`.
* `Machine.Field.Follows`: a field is read as its layout says wherever there are enough octets.
* `Machine.fieldOf`: the fields of all kinds of values. `Machine.fieldOf_follows`: they follow their layouts.
* `Machine.readElement`: an element. `Machine.readElement_eq`: no long enough string makes the machine crash.
-/

namespace Telecontrol

namespace Machine

variable {α β : Type} {word : Nat}

/-- A field as a machine reads it. -/
structure Field (α : Type) where
  size : Nat
  read : Octets → ExceptT Fault Option α

/-- Fields that lie back to back, as a machine reads them from a position on. -/
structure Fields (α : Type) where
  size : Nat
  read : Octets → Nat → ExceptT Fault Option α

/-- A field whose octets are copied at once, if they are there. -/
def Field.whole (field : Layout α) : Field α where
  size := field.size
  read bs :=
    match field.read bs with
    | some (a, _) => return a
    | none => throw (.parsing s!"need {field.size} bytes, got {bs.length}")

/-- One field, behind which the position is counted on as behind any other. -/
def Fields.last (word : Nat) (field : Field α) : Fields α where
  size := field.size
  read bs offset := do
    let a ← field.read (← tail bs offset)
    let _ ← add word offset field.size
    return a

/-- A field in front of others. -/
def Fields.before (word : Nat) (field : Field α) (later : Fields β) : Fields (α × β) where
  size := field.size + later.size
  read bs offset := do
    let a ← field.read (← tail bs offset)
    let offset ← add word offset field.size
    let b ← later.read bs offset
    return (a, b)

/-- A record, which looks first whether all its octets are there. -/
def Field.record (name : String) (view : α → β) (fields : Fields α) : Field β where
  size := fields.size
  read bs := do
    if bs.length < fields.size then
      throw (.parsing s!"{name} needs {fields.size} bytes, got {bs.length}")
    let a ← fields.read bs 0
    return view a

/-- A field reads what its layout reads, off every string that is long enough. -/
structure Field.Follows (f : Field α) (field : Layout α) : Prop where
  size : f.size = field.size
  read (bs : Octets) : field.size ≤ bs.length →
    ∃ a, f.read bs = some (.ok a) ∧ field.read bs = some (a, bs.drop field.size)

/-- Fields read what their layout reads, at every position behind which there are enough octets. -/
structure Fields.Follows (word : Nat) (f : Fields α) (field : Layout α) : Prop where
  size : f.size = field.size
  read (bs : Octets) (offset : Nat) : offset + field.size ≤ bs.length → offset + field.size < Nat.pow 2 word →
    ∃ a, f.read bs offset = some (.ok a) ∧
      field.read (bs.drop offset) = some (a, bs.drop (offset + field.size))

section

variable {field : Layout α} {later : Layout β} {f : Field α} {fs : Fields α} {gs : Fields β}

theorem Field.follows_whole {canonical : α → α} {used : Octets} (h : field.Lawful canonical used) :
    (whole field).Follows field where
  size := rfl
  read bs hbs := by
    obtain ⟨a, -, hread, -⟩ := h.read_front hbs
    refine ⟨a, ?_, hread⟩
    unfold whole
    dsimp only
    rw [hread]
    rfl

theorem Fields.Follows.last (h : f.Follows field) : (Fields.last word f).Follows word field where
  size := h.size
  read bs offset hbs hword := by
    obtain ⟨a, hread, hlayout⟩ := h.read (bs.drop offset) (by
      rw [List.length_drop]
      omega)
    rw [List.drop_drop] at hlayout
    refine ⟨a, ?_, hlayout⟩
    unfold Fields.last
    dsimp only
    rw [tail_eq (Nat.le_trans (Nat.le_add_right _ _) hbs), h.size, add_eq hword]
    show (f.read (bs.drop offset) >>= fun a => pure a) = _
    rw [hread]
    rfl

theorem Fields.Follows.before (h : f.Follows field) (hgs : gs.Follows word later) :
    (Fields.before word f gs).Follows word (field.followedBy later) where
  size := by
    show f.size + gs.size = field.size + later.size
    rw [h.size, hgs.size]
  read bs offset hbs hword := by
    have hsize : (field.followedBy later).size = field.size + later.size := rfl
    rw [hsize, ← Nat.add_assoc] at hbs hword ⊢
    obtain ⟨a, hread, hlayout⟩ := h.read (bs.drop offset) (by
      rw [List.length_drop]
      omega)
    obtain ⟨b, hread', hlayout'⟩ := hgs.read bs (offset + field.size) hbs hword
    rw [List.drop_drop] at hlayout
    refine ⟨(a, b), ?_, ?_⟩
    · unfold Fields.before
      dsimp only
      rw [tail_eq (by omega), h.size, add_eq (by omega)]
      show (f.read (bs.drop offset) >>= fun a => gs.read bs (offset + field.size) >>= fun b => pure (a, b)) = _
      rw [hread]
      show (gs.read bs (offset + field.size) >>= fun b => pure (a, b)) = _
      rw [hread']
      rfl
    · rw [Layout.followedBy_read hlayout, hlayout']
      rfl

theorem Fields.Follows.record (h : fs.Follows word field) (hsize : field.size < Nat.pow 2 word) (name : String)
    (view : α → β) (back : β → α) : (Field.record name view fs).Follows (field.map view back) where
  size := h.size
  read bs hbs := by
    have hle : field.size ≤ bs.length := hbs
    obtain ⟨a, hread, hlayout⟩ := h.read bs 0 (by omega) (by omega)
    rw [Nat.zero_add, List.drop_zero] at hlayout
    refine ⟨view a, ?_, ?_⟩
    · unfold Field.record
      dsimp only
      rw [h.size, if_neg (Nat.not_lt.2 hle)]
      show (fs.read bs 0 >>= fun a => pure (view a)) = _
      rw [hread]
      rfl
    · rw [Layout.map_read, hlayout]
      rfl

end

/-! ## Values -/

/-- A record of two fields. -/
def pair (word : Nat) (name : String) (first : Layout α) (second : Layout β) {γ : Type}
    (view : α × β → γ) : Field γ :=
  .record name view (.before word (.whole first) (.last word (.whole second)))

/-- A record with a quality and a time behind its first field. -/
def report (word : Nat) (name : String) (field : Layout α) : Field (ProtectionReport α) :=
  .record name (fun (report, quality, elapsed) => ⟨report, quality, elapsed⟩)
    (.before word (.whole field) (.before word (.whole ProtectionQuality.layout)
      (.last word (.whole Cp16Time.layout))))

def fieldOf (word : Nat) : (k : ElementKind) → Field k.Value
  | .stepPosition => qualified "StepPositionInformation" StepPosition.layout
  | .bitstring => qualified "Bitstring32Information" Layout.word32
  | .normalized => qualified "MeasuredNormalized" Normalized.layout
  | .scaled => qualified "MeasuredScaled" Scaled.layout
  | .float => qualified "MeasuredFloat" ShortFloat.layout
  | .packedPoints => qualified "PackedSinglePointWithScd" PackedPoints.layout
  | .protectionEvent =>
    pair word "ProtectionEvent" ProtectionState.layout Cp16Time.layout fun (event, elapsed) => ⟨event, elapsed⟩
  | .startEvents => report word "PackedStartEvents" StartEvents.layout
  | .outputCircuits => report word "PackedOutputCircuitInfo" OutputCircuits.layout
  | .normalizedSetpoint => setpoint "SetpointNormalized" Normalized.layout
  | .scaledSetpoint => setpoint "SetpointScaled" Scaled.layout
  | .floatSetpoint => setpoint "SetpointFloat" ShortFloat.layout
  | .normalizedParameter => parameter "ParameterNormalized" Normalized.layout
  | .scaledParameter => parameter "ParameterScaled" Scaled.layout
  | .floatParameter => parameter "ParameterFloat" ShortFloat.layout
  | k => .whole k.layout
where
  qualified {α : Type} (name : String) (field : Layout α) : Field (Qualified α) :=
    pair word name field Quality.layout fun (value, quality) => ⟨value, quality⟩
  setpoint {α : Type} (name : String) (field : Layout α) : Field (Setpoint α) :=
    pair word name field SetpointQualifier.layout fun (value, qualifier) => ⟨value, qualifier⟩
  parameter {α : Type} (name : String) (field : Layout α) : Field (MeasurementParameter α) :=
    pair word name field .octet fun (value, qualifier) => ⟨value, qualifier⟩

section

variable {first : Layout α} {second : Layout β} {canonical : α → α} {canonical' : β → β}
  {used used' : Octets}

theorem pair_follows (hf : first.Lawful canonical used) (hs : second.Lawful canonical' used')
    (hsize : first.size + second.size < Nat.pow 2 word) (name : String) {γ : Type} (view : α × β → γ)
    (back : γ → α × β) :
    (pair word name first second view).Follows ((first.followedBy second).map view back) :=
  Fields.Follows.record (.before (Field.follows_whole hf) (.last (Field.follows_whole hs))) hsize name view back

theorem report_follows (hf : first.Lawful canonical used) (hsize : first.size + 3 < Nat.pow 2 word)
    (name : String) : (report word name first).Follows (ProtectionReport.layout first) :=
  Fields.Follows.record
    (.before (Field.follows_whole hf)
      (.before (Field.follows_whole ProtectionQuality.lawful) (.last (Field.follows_whole Cp16Time.lawful))))
    hsize name _ _

end

/-- A value of every kind is read as its layout says. -/
theorem fieldOf_follows (hw : 16 ≤ word) (k : ElementKind) : (fieldOf word k).Follows k.layout := by
  have hsize {n : Nat} (h : n < 65536) : n < Nat.pow 2 word := lt_word hw h
  cases k with
  | stepPosition => exact pair_follows StepPosition.lawful Quality.lawful (hsize (by decide)) _ _ _
  | bitstring => exact pair_follows Layout.lawful_word32 Quality.lawful (hsize (by decide)) _ _ _
  | normalized => exact pair_follows Normalized.lawful Quality.lawful (hsize (by decide)) _ _ _
  | scaled => exact pair_follows Scaled.lawful Quality.lawful (hsize (by decide)) _ _ _
  | float => exact pair_follows ShortFloat.lawful Quality.lawful (hsize (by decide)) _ _ _
  | packedPoints => exact pair_follows PackedPoints.lawful Quality.lawful (hsize (by decide)) _ _ _
  | protectionEvent => exact pair_follows ProtectionState.lawful Cp16Time.lawful (hsize (by decide)) _ _ _
  | startEvents => exact report_follows StartEvents.lawful (hsize (by decide)) _
  | outputCircuits => exact report_follows OutputCircuits.lawful (hsize (by decide)) _
  | normalizedSetpoint => exact pair_follows Normalized.lawful SetpointQualifier.lawful (hsize (by decide)) _ _ _
  | scaledSetpoint => exact pair_follows Scaled.lawful SetpointQualifier.lawful (hsize (by decide)) _ _ _
  | floatSetpoint => exact pair_follows ShortFloat.lawful SetpointQualifier.lawful (hsize (by decide)) _ _ _
  | normalizedParameter => exact pair_follows Normalized.lawful Layout.lawful_octet (hsize (by decide)) _ _ _
  | scaledParameter => exact pair_follows Scaled.lawful Layout.lawful_octet (hsize (by decide)) _ _ _
  | floatParameter => exact pair_follows ShortFloat.lawful Layout.lawful_octet (hsize (by decide)) _ _ _
  | singlePoint | doublePoint | counter | bareNormalized | singleCommand | doubleCommand | stepCommand | word32
  | octet | nothing | clock | word16 | elapsed => exact Field.follows_whole (ElementKind.lawful _)

/-! ## Elements -/

/-- The time tag behind a value of `size` octets; where there is none, nothing is looked at. -/
def readStamp (size : Nat) (bs : Octets) : (t : TimeTag) → ExceptT Fault Option t.Stamp
  | .none => (pure () : ExceptT Fault Option Unit)
  | t => do (Field.whole t.layout).read (← tail bs size)

def readElement (word : Nat) (t : TypeId) (bs : Octets) : ExceptT Fault Option Element := do
  let value ← (fieldOf word t.kind).read bs
  let time ← readStamp (fieldOf word t.kind).size bs t.timeTag
  return ⟨t, value, time⟩

theorem readStamp_eq {size : Nat} {bs : Octets} (t : TimeTag) (h : size + t.layout.size ≤ bs.length) :
    ∃ stamp, readStamp size bs t = some (.ok stamp) ∧
      t.layout.read (bs.drop size) = some (stamp, bs.drop (size + t.layout.size)) := by
  have hsize : size ≤ bs.length := Nat.le_trans (Nat.le_add_right _ _) h
  obtain ⟨stamp, hread, hlayout⟩ := (Field.follows_whole t.lawful).read (bs.drop size) (by
    rw [List.length_drop]
    omega)
  rw [List.drop_drop] at hlayout
  refine ⟨stamp, ?_, hlayout⟩
  cases t with
  | none => rfl
  | cp24 | cp56 =>
    unfold readStamp
    dsimp only
    rw [tail_eq hsize]
    exact hread

/-- A string that is long enough for an element does not make the machine crash. -/
theorem readElement_eq (hw : 16 ≤ word) {t : TypeId} {bs : Octets} (h : t.elementSize ≤ bs.length) :
    ∃ e, readElement word t bs = some (.ok e) ∧ Element.read t bs = some e := by
  have hf := fieldOf_follows hw t.kind
  have hsize : t.kind.layout.size + t.timeTag.layout.size ≤ bs.length := h
  obtain ⟨value, hread, hlayout⟩ := hf.read bs (Nat.le_trans (Nat.le_add_right _ _) hsize)
  obtain ⟨stamp, hstamp, hlayout'⟩ := readStamp_eq t.timeTag hsize
  refine ⟨⟨t, value, stamp⟩, ?_, ?_⟩
  · unfold readElement
    rw [hread, hf.size]
    show (readStamp t.kind.layout.size bs t.timeTag >>= fun time => pure (Element.mk t value time)) = _
    rw [hstamp]
    rfl
  · unfold Element.read TypeId.layout
    rw [Layout.followedBy_read hlayout, hlayout']
    rfl

end Machine

end Telecontrol
