/-
Messages sent without their lengths to a reader that is told of chunks and
starts afresh on each.  A message that is cut is read as far as it goes, with
zeros for what is missing; when a message of zeros exists and every message
begins with zeros, such a reader finds the messages that were sent if and only
if no chunk ends inside of one.
-/
import Mathlib.Data.List.Basic

namespace Unframed

universe u v w

variable {S : Type u} {M : Type v} {B : Type w}

/-- A reader with the encoding of what it reads.  `loop` reads the messages of
a chunk; those that are not `known` have no effect. -/
structure Reader (S : Type u) (M : Type v) (B : Type w) where
  bytes : S → List B
  fresh : List B → S
  read : S → M × S
  loop : S → List M
  known : M → Bool
  encode : M → List B

namespace Reader

/-- The messages of one chunk that have an effect. -/
def emit (R : Reader S M B) (s : S) : List M := (R.loop s).filter R.known

/-- The messages of chunks that become readable one after the other. -/
def emitted (R : Reader S M B) (chunks : List (List B)) : List M :=
  chunks.flatMap fun c => R.emit (R.fresh c)

/-- Each chunk is a number of whole messages. -/
def Whole (R : Reader S M B) (ms : List M) (chunks : List (List B)) : Prop :=
  ∃ groups : List (List M), groups.flatten = ms ∧
    groups.map (List.flatMap R.encode) = chunks

/-- What makes cut messages show: `first` is sent as `width` zeros, and every
message begins with all but one of them. -/
structure Lawful (R : Reader S M B) (Valid : M → Prop) (zero : B)
    (width : Nat) (first : M) : Prop where
  bytes_fresh : ∀ c, R.bytes (R.fresh c) = c
  loop_nil : ∀ s, R.bytes s = [] → R.loop s = []
  loop_cons : ∀ s, R.bytes s ≠ [] →
    R.loop s = (R.read s).1 :: R.loop (R.read s).2
  known : ∀ m, Valid m → R.known m = true
  whole : ∀ m s rest, Valid m → R.bytes s = R.encode m ++ rest →
    (R.read s).1 = m ∧ R.bytes (R.read s).2 = rest
  cut : ∀ m s n, Valid m → 0 < n → n < (R.encode m).length →
    R.bytes s = (R.encode m).take n →
      R.known (R.read s).1 = true ∧ R.bytes (R.read s).2 = [] ∧
        ((R.read s).1 = m → ∀ b ∈ (R.encode m).drop n, b = zero)
  width_pos : 0 < width
  valid_first : Valid first
  encode_first : R.encode first = List.replicate width zero
  begins : ∀ m, Valid m → width ≤ (R.encode m).length ∧
    ∀ b ∈ (R.encode m).take (width - 1), b = zero
  zeros : ∀ s, R.bytes s ≠ [] → (∀ b ∈ (R.bytes s).take width, b = zero) →
    (R.read s).1 = first ∧ R.bytes (R.read s).2 = (R.bytes s).drop width

variable {R : Reader S M B} {Valid : M → Prop} {zero : B} {width : Nat}
  {first : M}

theorem emitted_cons (c : List B) (cs : List (List B)) :
    R.emitted (c :: cs) = R.emit (R.fresh c) ++ R.emitted cs :=
  List.flatMap_cons

namespace Lawful

theorem emit_nil (h : R.Lawful Valid zero width first) {s : S}
    (hs : R.bytes s = []) : R.emit s = [] := by
  rw [emit, h.loop_nil s hs, List.filter_nil]

theorem emit_of_known (h : R.Lawful Valid zero width first) {s : S}
    (hs : R.bytes s ≠ []) (hknown : R.known (R.read s).1 = true) :
    R.emit s = (R.read s).1 :: R.emit (R.read s).2 := by
  rw [emit, h.loop_cons s hs, List.filter_cons_of_pos hknown]
  rfl

theorem encode_ne_nil (h : R.Lawful Valid zero width first) {m : M}
    (hm : Valid m) : R.encode m ≠ [] := by
  apply List.ne_nil_of_length_pos
  exact Nat.lt_of_lt_of_le h.width_pos (h.begins m hm).1

/-- Whole messages are read as they were written. -/
theorem emit_flatMap (h : R.Lawful Valid zero width first) {ms : List M}
    (hms : ∀ m ∈ ms, Valid m) {s : S}
    (hs : R.bytes s = ms.flatMap R.encode) : R.emit s = ms := by
  induction ms generalizing s with
  | nil => exact h.emit_nil hs
  | cons m ms ih =>
      rw [List.forall_mem_cons] at hms
      rw [List.flatMap_cons] at hs
      obtain ⟨hread, hrest⟩ := h.whole m s _ hms.1 hs
      have hne : R.bytes s ≠ [] := by
        rw [hs]
        exact List.append_ne_nil_of_left_ne_nil (h.encode_ne_nil hms.1) _
      have hknown : R.known (R.read s).1 = true := by
        rw [hread]
        exact h.known m hms.1
      rw [h.emit_of_known hne hknown, hread, ih hms.2 hrest]

theorem emitted_of_whole (h : R.Lawful Valid zero width first)
    {ms : List M} {chunks : List (List B)} (hms : ∀ m ∈ ms, Valid m)
    (hwhole : R.Whole ms chunks) : R.emitted chunks = ms := by
  obtain ⟨groups, rfl, rfl⟩ := hwhole
  induction groups with
  | nil => rfl
  | cons g gs ih =>
      rw [List.flatten_cons, List.forall_mem_append] at hms
      rw [List.map_cons, emitted_cons, List.flatten_cons, ih hms.2,
        h.emit_flatMap hms.1 (h.bytes_fresh _)]

/-- Zeros before a message reach as far as a message of zeros. -/
theorem zeros_ahead (h : R.Lawful Valid zero width first) {z : List B}
    (hz : ∀ b ∈ z, b = zero) (hne : z ≠ []) {ms : List M}
    (hms : ∀ m ∈ ms, Valid m) :
    ∀ b ∈ (z ++ ms.flatMap R.encode).take width, b = zero := by
  intro b hb
  rw [List.take_append, List.mem_append] at hb
  rcases hb with hb | hb
  · exact hz b (List.mem_of_mem_take hb)
  · cases ms with
    | nil => simp at hb
    | cons m ms =>
        rw [List.forall_mem_cons] at hms
        obtain ⟨hlength, hbegins⟩ := h.begins m hms.1
        have hpos := List.length_pos_iff.2 hne
        rw [List.flatMap_cons,
          List.take_append_of_le_length (by omega)] at hb
        apply hbegins b
        have hle : width - z.length ≤ width - 1 := by omega
        exact (List.take_prefix_take_left hle).subset hb

/-- Chunks that are used up, or empty, have no effect. -/
theorem exists_ne_nil (h : R.Lawful Valid zero width first) {s : S}
    {chunks : List (List B)} (hne : R.bytes s ++ chunks.flatten ≠ []) :
    ∃ s' chunks', R.bytes s' ≠ [] ∧
      R.bytes s' ++ chunks'.flatten = R.bytes s ++ chunks.flatten ∧
        R.emit s' ++ R.emitted chunks' = R.emit s ++ R.emitted chunks := by
  induction chunks generalizing s with
  | nil =>
      rw [List.flatten_nil, List.append_nil] at hne
      exact ⟨s, [], hne, rfl, rfl⟩
  | cons c cs ih =>
      by_cases hs : R.bytes s = []
      · rw [hs, List.nil_append, List.flatten_cons] at hne
        obtain ⟨s', chunks', hs', hbytes, hemit⟩ :=
          ih (s := R.fresh c) (by rwa [h.bytes_fresh])
        refine ⟨s', chunks', hs', ?_, ?_⟩
        · rw [hbytes, h.bytes_fresh, hs, List.nil_append, List.flatten_cons]
        · rw [hemit, h.emit_nil hs, List.nil_append, emitted_cons]
      · exact ⟨s, c :: cs, hs, rfl, rfl⟩

/-- Zeros are read as a message of zeros, as far as the chunk goes. -/
theorem read_zeros (h : R.Lawful Valid zero width first) {s : S}
    {rest stream : List B} (hs : R.bytes s ≠ [])
    (hstream : R.bytes s ++ rest = stream)
    (hzeros : ∀ b ∈ stream.take width, b = zero) :
    R.emit s = first :: R.emit (R.read s).2 ∧
      R.bytes (R.read s).2 ++ rest =
        stream.drop (min width (R.bytes s).length) := by
  have hfirst : ∀ b ∈ (R.bytes s).take width, b = zero := by
    intro b hb
    apply hzeros b
    rw [← hstream, List.take_append]
    exact List.mem_append_left _ hb
  obtain ⟨hread, hrest⟩ := h.zeros s hs hfirst
  constructor
  · rw [h.emit_of_known hs (hread ▸ h.known first h.valid_first), hread]
  · rw [hrest, ← hstream,
      List.drop_append_of_le_length (Nat.min_le_right ..)]
    rcases Nat.le_total width (R.bytes s).length with hle | hle
    · rw [Nat.min_eq_left hle]
    · rw [Nat.min_eq_right hle, List.drop_length, List.drop_eq_nil_of_le hle]

/-- A reader that meets zeros where a message should begin takes them for
messages of zeros; it never finds its way back. -/
theorem emit_ne_of_zeros (h : R.Lawful Valid zero width first) {ms : List M}
    (hms : ∀ m ∈ ms, Valid m) {z : List B} (hz : ∀ b ∈ z, b = zero)
    (hne : z ≠ []) {s : S} {chunks : List (List B)}
    (hstream : R.bytes s ++ chunks.flatten = z ++ ms.flatMap R.encode) :
    R.emit s ++ R.emitted chunks ≠ ms := by
  induction ms generalizing z s chunks with
  | nil =>
      obtain ⟨s', chunks', hs', hbytes, hemit⟩ := h.exists_ne_nil (by
        rw [hstream]
        exact List.append_ne_nil_of_left_ne_nil hne _)
      have hread := h.read_zeros hs' (hbytes.trans hstream)
        (h.zeros_ahead hz hne hms)
      rw [← hemit, hread.1]
      exact List.cons_ne_nil _ _
  | cons m ms ih =>
      obtain ⟨s', chunks', hs', hbytes, hemit⟩ := h.exists_ne_nil (by
        rw [hstream]
        exact List.append_ne_nil_of_left_ne_nil hne _)
      obtain ⟨hfirst, hrest⟩ := h.read_zeros hs' (hbytes.trans hstream)
        (h.zeros_ahead hz hne hms)
      rw [← hemit, hfirst, List.cons_append]
      intro heq
      obtain ⟨rfl, hrestEq⟩ := List.cons.inj heq
      have hpos := List.length_pos_iff.2 hne
      have hshort : min width (R.bytes s').length ≤
          (z ++ List.replicate width zero).length := by
        rw [List.length_append, List.length_replicate]
        omega
      rw [List.flatMap_cons, h.encode_first, ← List.append_assoc,
        List.drop_append_of_le_length hshort] at hrest
      refine ih (List.forall_mem_cons.1 hms).2 ?_ ?_ hrest hrestEq
      · intro b hb
        rcases List.mem_append.1 (List.mem_of_mem_drop hb) with hb | hb
        · exact hz b hb
        · exact List.eq_of_mem_replicate hb
      · apply List.ne_nil_of_length_pos
        rw [List.length_drop, List.length_append, List.length_replicate]
        omega

/-- A reader that finds a message first has all of it in its chunk. -/
theorem exists_of_emit_eq_cons (h : R.Lawful Valid zero width first) {m : M}
    {ms : List M} (hm : Valid m) (hms : ∀ m ∈ ms, Valid m) {s : S}
    {chunks : List (List B)} (hs : R.bytes s ≠ [])
    (hstream : R.bytes s ++ chunks.flatten =
      R.encode m ++ ms.flatMap R.encode)
    (hemit : R.emit s ++ R.emitted chunks = m :: ms) :
    ∃ s', R.bytes s = R.encode m ++ R.bytes s' ∧
      R.bytes s' ++ chunks.flatten = ms.flatMap R.encode ∧
        R.emit s' ++ R.emitted chunks = ms := by
  rcases Nat.lt_or_ge (R.bytes s).length (R.encode m).length with hlt | hle
  · -- the chunk ends inside of the message
    exfalso
    have hcut : R.bytes s = (R.encode m).take (R.bytes s).length := by
      have htake := congrArg (List.take (R.bytes s).length) hstream
      rwa [List.take_left, List.take_append_of_le_length
        (Nat.le_of_lt hlt)] at htake
    have hleft : chunks.flatten = (R.encode m).drop (R.bytes s).length ++
        ms.flatMap R.encode := by
      have hdrop := congrArg (List.drop (R.bytes s).length) hstream
      rwa [List.drop_left, List.drop_append_of_le_length
        (Nat.le_of_lt hlt)] at hdrop
    obtain ⟨hknown, hrest, hzeros⟩ :=
      h.cut m s _ hm (List.length_pos_iff.2 hs) hlt hcut
    rw [h.emit_of_known hs hknown, List.cons_append] at hemit
    obtain ⟨hread, hemit⟩ := List.cons.inj hemit
    refine h.emit_ne_of_zeros hms (hzeros hread) ?_ ?_ hemit
    · apply List.ne_nil_of_length_pos
      rw [List.length_drop]
      omega
    · rw [hrest, List.nil_append, hleft]
  · obtain ⟨rest, hrest⟩ := List.prefix_of_prefix_length_le
      (List.prefix_append _ _) ⟨chunks.flatten, hstream⟩ hle
    obtain ⟨hread, hbytes⟩ := h.whole m s rest hm hrest.symm
    refine ⟨(R.read s).2, ?_, ?_, ?_⟩
    · rw [hbytes, hrest]
    · rw [← hrest, List.append_assoc] at hstream
      rw [hbytes]
      exact List.append_cancel_left hstream
    · rw [h.emit_of_known hs (hread ▸ h.known m hm), List.cons_append]
        at hemit
      exact (List.cons.inj hemit).2

/-- A reader that finds the messages that were sent found whole messages in
each chunk. -/
theorem exists_groups (h : R.Lawful Valid zero width first) {ms : List M}
    (hms : ∀ m ∈ ms, Valid m) {s : S} {chunks : List (List B)}
    (hstream : R.bytes s ++ chunks.flatten = ms.flatMap R.encode)
    (hemit : R.emit s ++ R.emitted chunks = ms) :
    ∃ (g : List M) (groups : List (List M)),
      g.flatMap R.encode = R.bytes s ∧
        groups.map (List.flatMap R.encode) = chunks ∧
          g ++ groups.flatten = ms := by
  induction chunks generalizing s ms with
  | nil =>
      rw [List.flatten_nil, List.append_nil] at hstream
      exact ⟨ms, [], hstream.symm, rfl, List.append_nil ms⟩
  | cons c cs ih =>
      have hnext : ∀ {ms : List M} {s : S}, (∀ m ∈ ms, Valid m) →
          R.bytes s = [] →
            R.bytes s ++ (c :: cs).flatten = ms.flatMap R.encode →
              R.emit s ++ R.emitted (c :: cs) = ms →
                ∃ (g : List M) (groups : List (List M)),
                  g.flatMap R.encode = R.bytes s ∧
                    groups.map (List.flatMap R.encode) = c :: cs ∧
                      g ++ groups.flatten = ms := by
        intro ms s hms hs hstream hemit
        rw [hs, List.nil_append, List.flatten_cons,
          ← h.bytes_fresh c] at hstream
        rw [h.emit_nil hs, List.nil_append, emitted_cons] at hemit
        obtain ⟨g, groups, hg, hgroups, hall⟩ := ih hms hstream hemit
        refine ⟨[], g :: groups, hs.symm, ?_, hall⟩
        rw [List.map_cons, hg, h.bytes_fresh, hgroups]
      -- the messages of the chunk the reader is in, then the next chunk
      induction ms generalizing s with
      | nil =>
          have hs := (List.append_eq_nil_iff.1 hstream).1
          exact hnext hms hs hstream hemit
      | cons m ms ihm =>
          by_cases hs : R.bytes s = []
          · exact hnext hms hs hstream hemit
          · rw [List.forall_mem_cons] at hms
            obtain ⟨s', hbytes, hstream', hemit'⟩ :=
              h.exists_of_emit_eq_cons hms.1 hms.2 hs hstream hemit
            obtain ⟨g, groups, hg, hgroups, rfl⟩ :=
              ihm hms.2 hstream' hemit'
            refine ⟨m :: g, groups, ?_, hgroups, rfl⟩
            rw [List.flatMap_cons, hg, hbytes]

/-- The messages that were sent are found if and only if no chunk ends inside
of one. -/
theorem emitted_eq_iff (h : R.Lawful Valid zero width first) {ms : List M}
    (hms : ∀ m ∈ ms, Valid m) {chunks : List (List B)}
    (hstream : chunks.flatten = ms.flatMap R.encode) :
    R.emitted chunks = ms ↔ R.Whole ms chunks := by
  constructor
  · intro hemitted
    have hempty : R.bytes (R.fresh []) = [] := h.bytes_fresh []
    have hahead : R.bytes (R.fresh []) ++ chunks.flatten =
        ms.flatMap R.encode := by
      rw [hempty, List.nil_append, hstream]
    have hemit : R.emit (R.fresh []) ++ R.emitted chunks = ms := by
      rw [h.emit_nil hempty, List.nil_append, hemitted]
    obtain ⟨g, groups, hg, hgroups, rfl⟩ := h.exists_groups hms hahead hemit
    cases g with
    | nil => exact ⟨groups, rfl, hgroups⟩
    | cons m g =>
        rw [hempty, List.flatMap_cons, List.append_eq_nil_iff] at hg
        exact absurd hg.1 (h.encode_ne_nil (hms m List.mem_cons_self))
  · exact h.emitted_of_whole hms

end Lawful

end Reader

end Unframed
