import Mathlib.Tactic.Lemma
import Mathlib.Tactic.SplitIfs
import QueryAdmission.Lookup
import QueryAdmission.Settings.Json

/-!
# Settings laid over the standard ones

What is read from a document depends on the members of the settings' names alone (`Carries`): not on
their order, and not on other members. Each of them says what one setting is, and the others are the
standard ones (`Settings.overlay`). An array says the same as the object that gives its items the
names of the first settings (`Settings.ofJson?_arr`). An interval is read in any of the three ways
in which its parts may be written (`Interval.documents`), and only a carry that is too large is an
error.
-/

namespace QueryAdmission

/-! ### Intervals -/

namespace Interval

variable {secs nanos : Nat}

/-- The documents with so many seconds and nanoseconds. -/
def documents (secs nanos : Nat) : List Json :=
  [.obj [("secs", .nat secs), ("nanos", .nat nanos)],
    .obj [("nanos", .nat nanos), ("secs", .nat secs)], .arr [.nat secs, .nat nanos]]

/-- More seconds than a word holds are too many, whatever is carried. -/
lemma ofJsonParts?_nat (hn : nanos < UInt32.size) :
    ofJsonParts? (.nat secs) (.nat nanos) = ofParts? secs nanos := by
  rw [ofJsonParts?, Json.natBelow?_nat hn, Json.natBelow?]
  by_cases hs : secs < UInt64.size
  · simp [hs]
  · have hcarry : ¬secs + nanos / nanosPerSecond < UInt64.size := fun h =>
      hs (Nat.lt_of_le_of_lt (Nat.le_add_right _ _) h)
    simp [hs, ofParts?, hcarry]

lemma ofJson?_of_mem {j : Json} (hj : j ∈ documents secs nanos) (hn : nanos < UInt32.size) :
    ofJson? j = ofParts? secs nanos := by
  rw [← ofJsonParts?_nat hn]
  simp only [documents, List.mem_cons, List.not_mem_nil, or_false] at hj
  rcases hj with rfl | rfl | rfl
  · simp [ofJson?, List.lookup_cons]
  · simp [ofJson?, List.lookup_cons]
  · rfl

/-- Whole seconds among the nanoseconds are carried. -/
lemma parts_of_ofParts? {d : Interval} (h : ofParts? secs nanos = some d) :
    d.secs.toNat = secs + nanos / nanosPerSecond ∧ d.nanos = nanos % nanosPerSecond := by
  rw [ofParts?] at h
  split at h
  · cases h
    exact ⟨UInt64.toNat_ofNatLT .., rfl⟩
  · cases h

end Interval

namespace Settings

variable {c s : Settings} {fields fs : List Field} {members members' : List (String × Json)}
  {value : Field → Json} {f g : Field}

/-! ### Single settings -/

namespace Field

lemma name_inj : f.name = g.name ↔ f = g := by
  cases f <;> cases g <;> simp [name]

/-- Replace the setting by that of others. -/
def copy : Field → Settings → Settings → Settings
  | maxConcurrent, c, s => { s with maxConcurrent := c.maxConcurrent }
  | maxAffected, c, s => { s with maxAffected := c.maxAffected }
  | maxQueries, c, s => { s with maxQueries := c.maxQueries }
  | pollInterval, c, s => { s with pollInterval := c.pollInterval }

@[simp] lemma set?_toJson (f : Field) (c s : Settings) :
    f.set? s (f.toJson c) = some (f.copy c s) := by
  cases f <;> simp [set?, toJson, copy, bound?_nat, Interval.ofJson?_toJson]

lemma nodup_all : all.Nodup := by decide

/-- Whether a setting has that name. -/
def isName (n : String) : Bool := n ∈ all.map name

@[simp] lemma isName_name (f : Field) : isName f.name = true := by
  cases f <;> simp [isName, all]

end Field

/-! ### Members that count -/

/-- Of the members those that are named as settings are these, in this order. There may be any
others among them. -/
def Carries (members : List (String × Json)) (fields : List Field) (value : Field → Json) : Prop :=
  members.filter (fun m => Field.isName m.1) = fields.map fun f => (f.name, value f)

lemma lookup_map_name (fields : List Field) (value : Field → Json) (f : Field) :
    (fields.map fun g => (g.name, value g)).lookup f.name
      = if f ∈ fields then some (value f) else none := by
  induction fields with
  | nil => rfl
  | cons g fields ih =>
    rw [List.map_cons, lookup_cons_eq_ite, ih]
    by_cases h : f = g
    · simp [h]
    · simp [h, Field.name_inj]

lemma Carries.lookup_name (h : Carries members fields value) (f : Field) :
    members.lookup f.name = if f ∈ fields then some (value f) else none := by
  rw [← lookup_filter Field.isName f.isName_name, h, lookup_map_name]

/-! ### Laying members over settings -/

/-- The settings that are listed, and the standard ones for the rest. -/
def overlay (c : Settings) (fields : List Field) : Settings where
  maxConcurrent := if .maxConcurrent ∈ fields then c.maxConcurrent else standard.maxConcurrent
  maxAffected := if .maxAffected ∈ fields then c.maxAffected else standard.maxAffected
  maxQueries := if .maxQueries ∈ fields then c.maxQueries else standard.maxQueries
  pollInterval := if .pollInterval ∈ fields then c.pollInterval else standard.pollInterval

lemma foldl_copy (c : Settings) (fields : List Field) :
    Field.all.foldl (fun s f => if f ∈ fields then f.copy c s else s) standard
      = c.overlay fields := by
  simp only [Field.all, List.foldl_cons, List.foldl_nil, overlay]
  split_ifs <;> rfl

/-- Only the members of these settings are looked at. -/
lemma overlayMembers?_congr (h : ∀ f ∈ fs, members.lookup f.name = members'.lookup f.name) :
    overlayMembers? members fs s = overlayMembers? members' fs s := by
  induction fs generalizing s with
  | nil => rfl
  | cons f fs ih =>
    obtain ⟨hf, hfs⟩ := List.forall_mem_cons.1 h
    simp only [overlayMembers?, hf, ih hfs]

/-- Members that can be read, one after the other. -/
lemma Carries.overlayMembers?_eq_some (h : Carries members fields value)
    (hset : ∀ f ∈ fields, ∀ s, f.set? s (value f) = some (f.copy c s)) (fs : List Field)
    (s : Settings) :
    overlayMembers? members fs s
      = some (fs.foldl (fun s f => if f ∈ fields then f.copy c s else s) s) := by
  induction fs generalizing s with
  | nil => rfl
  | cons f fs ih =>
    rw [overlayMembers?, h.lookup_name, List.foldl_cons]
    by_cases hf : f ∈ fields
    · simp only [hf, if_true, hset f hf, ih]
    · simp only [hf, if_false, ih]

/-- One member that cannot be read spoils all. -/
lemma Carries.overlayMembers?_eq_none (h : Carries members fields value) (hf : f ∈ fields)
    (hset : ∀ s, f.set? s (value f) = none) (hfs : f ∈ fs) (s : Settings) :
    overlayMembers? members fs s = none := by
  induction fs generalizing s with
  | nil => cases hfs
  | cons g fs ih =>
    rw [overlayMembers?, h.lookup_name]
    rcases List.mem_cons.1 hfs with rfl | hfs
    · simp [hf, hset]
    · have ih := ih hfs
      split
      · exact ih s
      · split
        · exact ih _
        · rfl

lemma Carries.ofJson?_eq_some (h : Carries members fields value)
    (hset : ∀ f ∈ fields, ∀ s, f.set? s (value f) = some (f.copy c s)) :
    ofJson? (.obj members) = some (c.overlay fields) := by
  rw [ofJson?, h.overlayMembers?_eq_some hset, foldl_copy]

/-! ### Arrays -/

lemma overlayMembers?_nil (fs : List Field) (s : Settings) : overlayMembers? [] fs s = some s := by
  induction fs with
  | nil => rfl
  | cons f fs ih => simpa [overlayMembers?] using ih

/-- Items are members that have the names of the settings in order. -/
lemma overlayItems?_eq (hn : fs.Nodup) {items : List Json} (h : items.length ≤ fs.length)
    (s : Settings) :
    overlayItems? items fs s = overlayMembers? ((fs.map Field.name).zip items) fs s := by
  induction items generalizing fs s with
  | nil => rw [List.zip_nil_right, overlayMembers?_nil, overlayItems?]
  | cons j items ih =>
    cases fs with
    | nil => cases h
    | cons f fs =>
      obtain ⟨hf, hn⟩ := List.nodup_cons.1 hn
      rw [List.map_cons, List.zip_cons_cons, overlayItems?, overlayMembers?, List.lookup_cons_self]
      -- The other settings have other names than the first one.
      have hrest (s' : Settings) :
          overlayMembers? ((f.name, j) :: (fs.map Field.name).zip items) fs s'
            = overlayItems? items fs s' := by
        rw [ih hn (Nat.le_of_succ_le_succ h)]
        refine overlayMembers?_congr fun g hg => ?_
        have hne : g.name ≠ f.name := fun he => hf (Field.name_inj.1 he ▸ hg)
        rw [lookup_cons_eq_ite, if_neg hne]
      dsimp only
      split
      · exact (hrest _).symm
      · rfl

/-- An array is read as the object that names its items. -/
lemma ofJson?_arr {items : List Json} (h : items.length ≤ 4) :
    ofJson? (.arr items) = ofJson? (.obj ((Field.all.map Field.name).zip items)) :=
  overlayItems?_eq Field.nodup_all h standard

/-- The first values, with the names that belong to them. -/
lemma zip_map_take (value : Field → Json) (fs : List Field) (k : Nat) :
    (fs.map Field.name).zip ((fs.take k).map value)
      = (fs.take k).map fun f => (f.name, value f) := by
  induction fs generalizing k with
  | nil => simp
  | cons f fs ih =>
    cases k with
    | zero => simp
    | succ k => rw [List.take_succ_cons, List.map_cons, List.map_cons, List.zip_cons_cons, ih k,
        List.map_cons]

/-! ### Documents -/

/-- An interval that can be read is laid over the standard settings with the others. -/
lemma Carries.ofJson?_interval {interval : Json} {d : Interval}
    (h : Carries members fields fun f => if f = .pollInterval then interval else f.toJson c)
    (hd : Interval.ofJson? interval = some d) :
    ofJson? (.obj members) = some (overlay { c with pollInterval := d } fields) := by
  refine h.ofJson?_eq_some fun f _ s => ?_
  cases f with
  | pollInterval => simp [Field.set?, hd, Field.copy]
  | maxConcurrent | maxAffected | maxQueries =>
    simp [Field.copy]

/-- Reading lays a document over the standard settings, and undoes writing.

* An object that carries the values of any of the settings as they are stored, in any order and
  among any other members, is read as these settings, and the standard ones for the rest.
* An array of at most four items is read as the object that gives them the names of the settings in
  order; in particular, one of the first stored values as the object that carries these.
* Seconds and 32 bits of nanoseconds, written in any way, are read exactly if the seconds with those
  that are carried are below 2^64. The interval is that many seconds and the nanoseconds that are
  left, and what was read can be written and read again. -/
theorem ofJson?_overlay (c : Settings) :
    (∀ fields members, fields.Nodup → Carries members fields (·.toJson c) →
        ofJson? (.obj members) = some (c.overlay fields)) ∧
      ofJson? c.toJson = some c ∧
      (∀ items : List Json, items.length ≤ 4 →
        ofJson? (.arr items) = ofJson? (.obj ((Field.all.map Field.name).zip items))) ∧
      (∀ k, ofJson? (.arr ((Field.all.take k).map (·.toJson c)))
        = ofJson? (.obj ((Field.all.take k).map fun f => (f.name, f.toJson c)))) ∧
      ∀ secs nanos, nanos < UInt32.size → ∀ interval ∈ Interval.documents secs nanos,
        ∀ fields members, fields.Nodup → .pollInterval ∈ fields →
          (Carries members fields fun f => if f = .pollInterval then interval else f.toJson c) →
            ((ofJson? (.obj members)).isSome ↔ secs + nanos / nanosPerSecond < UInt64.size) ∧
              ∀ s, ofJson? (.obj members) = some s →
                s = overlay { c with pollInterval := s.pollInterval } fields ∧
                  s.pollInterval.secs.toNat = secs + nanos / nanosPerSecond ∧
                  s.pollInterval.nanos = nanos % nanosPerSecond ∧ ofJson? s.toJson = some s := by
  refine ⟨fun fields members _ h => ?_, ofJson?_toJson c, fun _ => ofJson?_arr, fun k => ?_, ?_⟩
  · exact h.ofJson?_eq_some fun f _ s => f.set?_toJson c s
  · have hk : ((Field.all.take k).map (·.toJson c)).length ≤ 4 := by
      rw [List.length_map]
      exact List.length_take_le' k Field.all
    rw [ofJson?_arr hk, zip_map_take]
  · intro secs nanos hn interval hi fields members _ hf h
    have hread := Interval.ofJson?_of_mem hi hn
    rw [← Interval.ofParts?_isSome]
    rcases hd : Interval.ofParts? secs nanos with _ | d
    · rw [hd] at hread
      have hnone : ofJson? (.obj members) = none := by
        refine h.overlayMembers?_eq_none hf (fun s => ?_) (by decide) standard
        simp [Field.set?, hread]
      simp [hnone]
    · rw [hd] at hread
      have hsome := h.ofJson?_interval hread
      obtain ⟨hsecs, hnanos⟩ := Interval.parts_of_ofParts? hd
      refine ⟨by simp [hsome], fun s hs => ?_⟩
      rw [hsome, Option.some_inj] at hs
      have hinterval : s.pollInterval = d := by
        rw [← hs, overlay, if_pos hf]
      rw [hinterval]
      exact ⟨hs.symm, hsecs, hnanos, ofJson?_toJson s⟩

/-- Three settings in an order of their own, with a member that says nothing: three seconds are
carried. With the largest number of seconds there is no room for one more, in an array no less than
in an object. -/
theorem ofJson?_overlay_carry :
    let c : Settings := ⟨3, 4, 5, .ofNanos 30000⟩
    let fields : List Field := [.pollInterval, .maxQueries]
    let members (interval : Json) : List (String × Json) :=
      [("poll_interval", interval), ("comment", .null), ("max_queries", .nat 5)]
    let interval : Json := .arr [.nat 1, .nat 3000000007]
    let tooLong : Json := .obj [("nanos", .nat 1000000000), ("secs", .nat 18446744073709551615)]
    interval ∈ Interval.documents 1 3000000007 ∧
      (Carries (members interval) fields fun f =>
        if f = .pollInterval then interval else f.toJson c) ∧
      (ofJson? (.obj (members interval))).isSome ∧
      ofJson? (.obj (members interval)) = some ⟨8, 16, 5, ⟨4, 7, by decide⟩⟩ ∧
      tooLong ∈ Interval.documents 18446744073709551615 1000000000 ∧
      (Carries (members tooLong) fields fun f =>
        if f = .pollInterval then tooLong else f.toJson c) ∧
      ¬(ofJson? (.obj (members tooLong))).isSome := by
  intro c fields members interval tooLong
  have hi : interval ∈ Interval.documents 1 3000000007 := by simp [Interval.documents, interval]
  have ht : tooLong ∈ Interval.documents 18446744073709551615 1000000000 := by
    simp [Interval.documents, tooLong]
  have hc : Carries (members interval) fields
      fun f => if f = .pollInterval then interval else f.toJson c := rfl
  have hct : Carries (members tooLong) fields
      fun f => if f = .pollInterval then tooLong else f.toJson c := rfl
  obtain ⟨-, -, -, -, hread⟩ := ofJson?_overlay c
  have h := hread 1 3000000007 (by decide) interval hi fields _ (by decide) (by decide) hc
  have hlong := hread _ _ (by decide) tooLong ht fields _ (by decide) (by decide) hct
  exact ⟨hi, hc, h.1.2 (by decide), rfl, ht, hct, fun hs => absurd (hlong.1.1 hs) (by decide)⟩

end Settings

end QueryAdmission
