/-
The memory the conversation function fills in.  PAM passes the address of one
pointer; the loop indexes that address by the number of the message, so it
stays in range for the first message only.
-/
import PlasmaLogin.BlockHeap
import PlasmaLogin.Converse

namespace PlasmaLogin

open BlockHeap

/-- What is allocated: an array of `struct pam_response`, each with its
pointer, or the bytes of a response. -/
inductive Block where
  | responses (items : List (Option Nat))
  | bytes (content : QByteArray)

/-- An access the program may not make. -/
inductive AccessFault where
  | outOfRange (index : Nat)
  | badPointer
deriving DecidableEq

/-- The pointers at the address PAM passes, the heap, and the number of
allocations so far. -/
structure ResponseMemory where
  resp : List (Option Nat)
  heap : Heap Block
  allocations : Nat := 0

/-- How `PamBackend::converse` ends once it has its answers. -/
inductive FillResult where
  | success
  | bufErr
deriving DecidableEq

/-- The allocator: which of its calls succeed, and what is in new memory. -/
structure Allocator where
  succeeds : Nat → Bool
  garbage : UInt8 := 0

namespace PamBackend

/-- The store the answers are taken from, when `converse` gets to them. -/
def answering (d : PamData) (conv : Conversation) : Option PamData :=
  if !acceptsCount conv.msgs then none
  else
    let c := collect d conv.msgs
    let sent := c.data.getRequest
    if c.newRequest && sent.valid then
      match conv.reply sent with
      | none => none
      | some received =>
          if !received.valid then none
          else some (c.data.completeRequest received)
    else some c.data

theorem converse_of_answering {d d' : PamData} {conv : Conversation}
    (h : answering d conv = some d') :
    (converse d conv).2.2 = .success (respond d' conv.msgs).1 := by
  simp only [answering] at h
  simp only [converse]
  split at h
  · exact absurd h (by simp)
  next hcount =>
    rw [if_neg hcount]
    split at h
    next hask =>
      rw [if_pos hask]
      cases hreply : conv.reply (collect d conv.msgs).data.getRequest with
      | none =>
          rw [hreply] at h
          exact absurd h (Option.some_ne_none d').symm
      | some received =>
          rw [hreply] at h
          simp only at h
          split at h
          · exact absurd h (Option.some_ne_none d').symm
          next hvalid =>
            obtain rfl := Option.some.inj h
            simp only [if_neg hvalid]
    next hask =>
      obtain rfl := Option.some.inj h
      rw [if_neg hask]

theorem converse_of_not_answering {d : PamData} {conv : Conversation}
    (h : answering d conv = none) (responses : List QByteArray) :
    (converse d conv).2.2 ≠ .success responses := by
  simp only [answering] at h
  simp only [converse]
  split at h
  next hcount =>
    rw [if_pos hcount]
    exact ConvResult.noConfusion
  next hcount =>
    rw [if_neg hcount]
    split at h
    next hask =>
      rw [if_pos hask]
      cases hreply : conv.reply (collect d conv.msgs).data.getRequest with
      | none => exact ConvResult.noConfusion
      | some received =>
          rw [hreply] at h
          simp only at h
          split at h
          next hvalid =>
            simp only [if_pos hvalid]
            exact ConvResult.noConfusion
          · exact absurd h (Option.some_ne_none _)
    · exact absurd h (by simp)

theorem acceptsCount_of_answering {d d' : PamData} {conv : Conversation}
    (h : answering d conv = some d') : acceptsCount conv.msgs = true := by
  rw [answering] at h
  split at h
  · exact absurd h (by simp)
  next hcount => simpa using hcount

end PamBackend

namespace ResponseMemory

/-- The pointer `resp[i]`. -/
def respAt (i : Nat) (m : ResponseMemory) : Except AccessFault Nat :=
  match m.resp[i]? with
  | none => .error (.outOfRange i)
  | some none => .error .badPointer
  | some (some p) => .ok p

/-- `resp[i]->resp`. -/
def field (i : Nat) (m : ResponseMemory) : Except AccessFault (Option Nat) := do
  let p ← m.respAt i
  match m.heap.read p with
  | some (.responses (q :: _)) => .ok q
  | _ => .error .badPointer

/-- An access to the heap that may fault. -/
def onHeap (m : ResponseMemory) (f : Heap Block → Option (Heap Block)) :
    Except AccessFault ResponseMemory :=
  match f m.heap with
  | some heap => .ok { m with heap := heap }
  | none => .error .badPointer

/-- `resp[i]->resp = q`. -/
def setField (i : Nat) (q : Option Nat) (m : ResponseMemory) :
    Except AccessFault ResponseMemory := do
  let p ← m.respAt i
  match m.heap.read p with
  | some (.responses (_ :: rest)) =>
      m.onHeap fun heap => heap.write p (.responses (q :: rest))
  | _ => .error .badPointer

/-- `*resp = p`. -/
def setPointer (p : Option Nat) (m : ResponseMemory) : ResponseMemory :=
  { m with resp := m.resp.set 0 p }

/-- `calloc` and `malloc`: a block, or null. -/
def allocate (a : Allocator) (block : Block) (m : ResponseMemory) :
    Option Nat × ResponseMemory :=
  if a.succeeds m.allocations then
    (some m.heap.next, { m with
      heap := m.heap.alloc block, allocations := m.allocations + 1 })
  else (none, { m with allocations := m.allocations + 1 })

/-- `free`; a null pointer is left alone. -/
def free (p : Option Nat) (m : ResponseMemory) :
    Except AccessFault ResponseMemory :=
  match p with
  | none => .ok m
  | some p => m.onHeap fun heap => heap.free p

/-- `memcpy` of a response and the NUL behind it. -/
def copy (p : Nat) (response : QByteArray) (m : ResponseMemory) :
    Except AccessFault ResponseMemory :=
  match m.heap.read p with
  | some (.bytes content) =>
      if response.length < content.length then
        m.onHeap fun heap => heap.write p
          (.bytes (response ++ [0] ++ content.drop (response.length + 1)))
      else .error .badPointer
  | _ => .error .badPointer

/-- The loop that releases the responses below an index. -/
def releaseBelow (i : Nat) (m : ResponseMemory) :
    Except AccessFault ResponseMemory :=
  (List.range i).foldlM (fun (m : ResponseMemory) j => do
    let q ← m.field j
    let m ← m.free q
    m.setField j none) m

/-- The answering loop of `PamBackend::converse`. -/
def fill (a : Allocator) (i : Nat) (d : PamData) (m : ResponseMemory) :
    List PamMessage → Except AccessFault (FillResult × ResponseMemory)
  | [] => .ok (.success, m)
  | msg :: rest => do
      let response := (d.getResponse msg).1
      let block := m.allocate a
        (.bytes (List.replicate (response.length + 1) a.garbage))
      let m ← block.2.setField i block.1
      match ← m.field i with
      | none =>
          let m ← m.releaseBelow i
          let m ← m.free ((m.resp[0]?).join)
          .ok (.bufErr, m.setPointer none)
      | some p =>
          let m ← m.copy p response
          fill a (i + 1) (d.getResponse msg).2 m rest

/-- The part of `PamBackend::converse` behind the request: the array and the
answering loop. -/
def respond (a : Allocator) (d : PamData) (m : ResponseMemory)
    (msgs : List PamMessage) :
    Except AccessFault (FillResult × ResponseMemory) :=
  let block := m.allocate a (.responses (List.replicate msgs.length none))
  let m := block.2.setPointer block.1
  if block.1.isNone then .ok (.bufErr, m) else m.fill a 0 d msgs

/-- `PamBackend::converse` with its memory; nothing is allocated before the
answers are known. -/
def converse (a : Allocator) (d : PamData) (m : ResponseMemory)
    (conv : Conversation) :
    Except AccessFault (Option FillResult × ResponseMemory) :=
  match PamBackend.answering d conv with
  | none => .ok (none, m)
  | some d => do
      let r ← respond a d m conv.msgs
      .ok (some r.1, r.2)

/-- The heap and the one pointer before the call. -/
def before (heap : Heap Block) (pointer : Option Nat) : ResponseMemory :=
  ⟨[pointer], heap, 0⟩

/-- One of the allocations for a number of messages fails. -/
def Exhausted (a : Allocator) (n : Nat) : Prop :=
  ∃ k, k ≤ n ∧ a.succeeds k = false

/-- Every response is there, with its NUL. -/
def Filled (m : ResponseMemory) (responses : List QByteArray) : Prop :=
  ∃ p items, m.resp = [some p] ∧ m.heap.read p = some (.responses items) ∧
    items.length = responses.length ∧
      ∀ (i : Nat) (response : QByteArray), responses[i]? = some response →
        ∃ q, items[i]? = some (some q) ∧
          m.heap.read q = some (.bytes (response ++ [0]))

/-- The answers stay in their memory, and are the array or no memory at
all. -/
def AnswersWellFormed (a : Allocator) (d : PamData) (heap : Heap Block)
    (pointer : Option Nat) (msgs : List PamMessage) : Prop :=
  ∃ result m, respond a d (before heap pointer) msgs = .ok (result, m) ∧
    heap.SameBelow heap.next m.heap ∧
      (¬ Exhausted a msgs.length → result = .success ∧
        m.Filled (PamBackend.respond d msgs).1) ∧
      (Exhausted a msgs.length → result = .bufErr ∧ m.resp = [none] ∧
        m.heap.Released heap.next)

/-- The call stays in its memory.  Once it has its responses, it leaves the
array with them, or no memory at all. -/
def WellFormed (a : Allocator) (d : PamData) (heap : Heap Block)
    (pointer : Option Nat) (conv : Conversation) : Prop :=
  ∃ result m, converse a d (before heap pointer) conv = .ok (result, m) ∧
    heap.SameBelow heap.next m.heap ∧
      ∀ responses, (PamBackend.converse d conv).2.2 = .success responses →
        (¬ Exhausted a conv.msgs.length → result = some .success ∧
          m.Filled responses) ∧
        (Exhausted a conv.msgs.length → result = some .bufErr ∧
          m.resp = [none] ∧ m.heap.Released heap.next)

section first

variable {m : ResponseMemory} {p : Nat} {q : Option Nat}
  {items : List (Option Nat)}

theorem field_zero (hresp : m.resp = [some p])
    (hread : m.heap.read p = some (.responses (q :: items))) :
    m.field 0 = .ok q := by
  simp [field, respAt, hresp, hread, Bind.bind, Except.bind]

/-- The first element of the array can be set. -/
theorem exists_setField_zero (hresp : m.resp = [some p])
    (hread : m.heap.read p = some (.responses (q :: items)))
    (q' : Option Nat) :
    ∃ heap, m.setField 0 q' = .ok { m with heap := heap } ∧
      heap.next = m.heap.next ∧ ∀ r, heap.read r =
        if r = p then some (.responses (q' :: items)) else m.heap.read r := by
  obtain ⟨heap, hwrite, hnext, hreads⟩ :=
    Heap.exists_write hread (.responses (q' :: items))
  refine ⟨heap, ?_, hnext, hreads⟩
  simp [setField, respAt, onHeap, hresp, hread, hwrite, Bind.bind,
    Except.bind]

/-- A response and its NUL fill the block that is allocated for it. -/
theorem exists_copy {block : Nat} {response : QByteArray} {garbage : UInt8}
    (hread : m.heap.read block =
      some (.bytes (List.replicate (response.length + 1) garbage))) :
    ∃ heap, m.copy block response = .ok { m with heap := heap } ∧
      heap.next = m.heap.next ∧ ∀ r, heap.read r =
        if r = block then some (.bytes (response ++ [0]))
        else m.heap.read r := by
  have hfull : response ++ [0] ++ (List.replicate (response.length + 1)
      garbage).drop (response.length + 1) = response ++ [0] := by
    rw [List.drop_of_length_le (Nat.le_of_eq (List.length_replicate ..)),
      List.append_nil]
  obtain ⟨heap, hwrite, hnext, hreads⟩ :=
    Heap.exists_write hread (.bytes (response ++ [0]))
  refine ⟨heap, ?_, hnext, hreads⟩
  simp only [copy, hread, List.length_replicate, Nat.lt_succ_self,
    ↓reduceIte, hfull, onHeap, hwrite]

end first

/-- The second response is out of range. -/
theorem setField_one {m : ResponseMemory} {p : Option Nat}
    (hresp : m.resp = [p]) (q : Option Nat) :
    m.setField 1 q = .error (.outOfRange 1) := by
  simp [setField, respAt, hresp, Bind.bind, Except.bind]

theorem allocate_resp (a : Allocator) (block : Block) (m : ResponseMemory) :
    (m.allocate a block).2.resp = m.resp := by
  unfold allocate
  split <;> rfl

theorem fill_one (a : Allocator) (d : PamData) {m : ResponseMemory}
    {p : Option Nat} (hresp : m.resp = [p]) (msg : PamMessage)
    (rest : List PamMessage) :
    m.fill a 1 d (msg :: rest) = .error (.outOfRange 1) := by
  rw [fill]
  simp only [setField_one ((allocate_resp a _ m).trans hresp), Bind.bind,
    Except.bind]

/-- The first turn with no memory for the response: the array goes. -/
theorem fill_zero_of_exhausted {a : Allocator} (d : PamData)
    {m : ResponseMemory} {p : Nat} {items : List (Option Nat)}
    (hresp : m.resp = [some p])
    (hread : m.heap.read p = some (.responses (none :: items)))
    (hfails : a.succeeds m.allocations = false) (msg : PamMessage)
    (rest : List PamMessage) :
    ∃ m' : ResponseMemory, m.fill a 0 d (msg :: rest) = .ok (.bufErr, m') ∧
      m'.resp = [none] ∧
        ∀ r, m'.heap.read r = if r = p then none else m.heap.read r := by
  let m₁ : ResponseMemory := { m with allocations := m.allocations + 1 }
  obtain ⟨heap₁, hset, _, hreads₁⟩ :=
    exists_setField_zero (m := m₁) hresp hread none
  have hread₁ : heap₁.read p = some (.responses (none :: items)) := by
    rw [hreads₁, if_pos rfl]
  have hfield : ({ m₁ with heap := heap₁ } : ResponseMemory).field 0 =
      .ok none := field_zero hresp hread₁
  obtain ⟨heap₂, hfree, _, hreads₂⟩ := Heap.exists_free hread₁
  refine ⟨{ m₁ with resp := [none], heap := heap₂ }, ?_, rfl, ?_⟩
  · have hnone : m.allocate a (.bytes (List.replicate
        ((d.getResponse msg).1.length + 1) a.garbage)) = (none, m₁) := by
      rw [allocate, hfails, if_neg Bool.false_ne_true]
    rw [fill]
    simp only [hnone, hset, hfield, Bind.bind, Except.bind, releaseBelow,
      List.range_zero, List.foldlM_nil, Pure.pure, Except.pure, free, onHeap,
      setPointer]
    simp [m₁, hresp, hfree]
  · intro r
    rw [hreads₂, hreads₁]
    split <;> rfl

/-- The first turn: the response is in the first element. -/
theorem fill_zero {a : Allocator} (d : PamData) {m : ResponseMemory} {p : Nat}
    {items : List (Option Nat)} (hresp : m.resp = [some p])
    (hread : m.heap.read p = some (.responses (none :: items)))
    (hworks : a.succeeds m.allocations = true) (msg : PamMessage)
    (rest : List PamMessage) :
    ∃ m' : ResponseMemory, m.fill a 0 d (msg :: rest) =
        m'.fill a 1 (d.getResponse msg).2 rest ∧ m'.resp = [some p] ∧
      ∀ r, m'.heap.read r =
        if r = m.heap.next then some (.bytes ((d.getResponse msg).1 ++ [0]))
        else if r = p then
          some (.responses (some m.heap.next :: items))
        else m.heap.read r := by
  let content := Block.bytes (List.replicate
    ((d.getResponse msg).1.length + 1) a.garbage)
  let m₁ : ResponseMemory := { m with
    heap := m.heap.alloc content, allocations := m.allocations + 1 }
  have hp : p ≠ m.heap.next := Nat.ne_of_lt (Heap.lt_next_of_read hread)
  have hread₁ : m₁.heap.read p = some (.responses (none :: items)) := by
    rw [Heap.read_alloc, if_neg hp, hread]
  obtain ⟨heap₂, hset, _, hreads₂⟩ :=
    exists_setField_zero (m := m₁) hresp hread₁ (some m.heap.next)
  have hread₂ : heap₂.read p =
      some (.responses (some m.heap.next :: items)) := by
    rw [hreads₂, if_pos rfl]
  have hfield : ({ m₁ with heap := heap₂ } : ResponseMemory).field 0 =
      .ok (some m.heap.next) := field_zero hresp hread₂
  let m₂ : ResponseMemory := { m₁ with heap := heap₂ }
  have hblock : m₂.heap.read m.heap.next = some (.bytes
      (List.replicate ((d.getResponse msg).1.length + 1) a.garbage)) := by
    rw [hreads₂, if_neg hp.symm, Heap.read_alloc, if_pos rfl]
  obtain ⟨heap₃, hcopy, _, hreads₃⟩ := exists_copy hblock
  refine ⟨{ m₁ with heap := heap₃ }, ?_, hresp, ?_⟩
  · have hsome : m.allocate a content = (some m.heap.next, m₁) := by
      rw [allocate, hworks, if_pos rfl]
    rw [fill]
    simp only [content] at hsome
    simp only [m₂] at hcopy
    simp only [hsome, hset, hfield, hcopy, Bind.bind, Except.bind]
  · intro r
    rw [hreads₃, hreads₂, Heap.read_alloc]
    by_cases hr : r = m.heap.next
    · rw [if_pos hr, if_pos hr]
    · simp only [if_neg hr]

section calls

variable {a : Allocator} {d : PamData} {heap : Heap Block}
  {pointer : Option Nat} {msgs : List PamMessage}

/-- The memory in front of the first turn. -/
def arrayAllocated (heap : Heap Block) (n : Nat) : ResponseMemory :=
  ⟨[some heap.next], heap.alloc (.responses (List.replicate n none)), 1⟩

theorem respond_of_calloc (hworks : a.succeeds 0 = true) :
    respond a d (before heap pointer) msgs =
      (arrayAllocated heap msgs.length).fill a 0 d msgs := by
  rw [respond]
  simp only [allocate, before, hworks, ↓reduceIte, Option.isNone_some,
    Bool.false_eq_true, setPointer, arrayAllocated, List.set_cons_zero]

theorem respond_of_no_calloc (hfails : a.succeeds 0 = false) :
    respond a d (before heap pointer) msgs = .ok (.bufErr, ⟨[none], heap, 1⟩) := by
  rw [respond]
  simp only [allocate, before, hfails, Bool.false_eq_true, ↓reduceIte,
    Option.isNone_none, setPointer, List.set_cons_zero]

/-- An error that leaves the heap as it was. -/
theorem answersWellFormed_of_bufErr {m : ResponseMemory}
    (hrespond : respond a d (before heap pointer) msgs = .ok (.bufErr, m))
    (hresp : m.resp = [none]) (hreads : ∀ r, m.heap.read r = heap.read r)
    (hexhausted : Exhausted a msgs.length) :
    AnswersWellFormed a d heap pointer msgs :=
  ⟨.bufErr, m, hrespond, fun r _ => hreads r,
    fun h => absurd hexhausted h,
    fun _ => ⟨rfl, hresp, fun r hr => by
      rw [hreads, Heap.read_of_next_le hr]⟩⟩

theorem read_arrayAllocated (heap : Heap Block) (n r : Nat) :
    (arrayAllocated heap n).heap.read r =
      if r = heap.next then some (.responses (List.replicate n none))
      else heap.read r :=
  Heap.read_alloc _ heap r

/-- One response, in the one element of the array. -/
theorem answersWellFormed_of_single {msg : PamMessage} {m : ResponseMemory}
    (hcalloc : a.succeeds 0 = true) (hmalloc : a.succeeds 1 = true)
    (hrespond : respond a d (before heap pointer) [msg] = .ok (.success, m))
    (hresp : m.resp = [some heap.next])
    (hreads : ∀ r, m.heap.read r =
      if r = heap.next + 1 then some (.bytes ((d.getResponse msg).1 ++ [0]))
      else if r = heap.next then some (.responses [some (heap.next + 1)])
      else heap.read r) : AnswersWellFormed a d heap pointer [msg] := by
  refine ⟨.success, m, hrespond, fun r hr => ?_, fun _ => ⟨rfl, ?_⟩,
    fun ⟨k, hk, hfails⟩ => ?_⟩
  · rw [hreads, if_neg (by omega), if_neg (by omega)]
  · refine ⟨heap.next, [some (heap.next + 1)], hresp, ?_, rfl, ?_⟩
    · rw [hreads, if_neg (by omega), if_pos rfl]
    · intro i response hresponse
      obtain ⟨rfl, rfl⟩ : i = 0 ∧ (d.getResponse msg).1 = response := by
        cases i with
        | zero => exact ⟨rfl, Option.some.inj hresponse⟩
        | succ i => simp [PamBackend.respond] at hresponse
      exact ⟨heap.next + 1, rfl, by rw [hreads, if_pos rfl]⟩
  · rw [List.length_singleton] at hk
    obtain rfl | rfl : k = 0 ∨ k = 1 := by omega
    · rw [hcalloc] at hfails
      exact absurd hfails (by decide)
    · rw [hmalloc] at hfails
      exact absurd hfails (by decide)

theorem read_array (heap : Heap Block) (n : Nat) :
    (arrayAllocated heap (n + 1)).heap.read heap.next =
      some (.responses (none :: List.replicate n none)) := by
  rw [read_arrayAllocated, if_pos rfl]
  rfl

/-- Without memory for the first response the array is given back. -/
theorem answersWellFormed_of_no_malloc (hcalloc : a.succeeds 0 = true)
    (hfails : a.succeeds 1 = false) (msg : PamMessage)
    (rest : List PamMessage) :
    AnswersWellFormed a d heap pointer (msg :: rest) := by
  obtain ⟨m, hfill, hresp, hreads⟩ :=
    fill_zero_of_exhausted d rfl (read_array heap rest.length) hfails msg rest
  apply answersWellFormed_of_bufErr ((respond_of_calloc hcalloc).trans hfill)
    hresp
  · intro r
    rw [hreads, read_arrayAllocated]
    split
    next hr => rw [hr, Heap.read_of_next_le le_rfl]
    · rfl
  · exact ⟨1, Nat.le_add_left 1 _, hfails⟩

variable (d heap pointer) in
/-- With it the first response is stored, and the loop goes on. -/
theorem respond_of_malloc (hcalloc : a.succeeds 0 = true)
    (hmalloc : a.succeeds 1 = true) (msg : PamMessage)
    (rest : List PamMessage) :
    ∃ m : ResponseMemory, respond a d (before heap pointer) (msg :: rest) =
        m.fill a 1 (d.getResponse msg).2 rest ∧ m.resp = [some heap.next] ∧
      ∀ r, m.heap.read r =
        if r = heap.next + 1 then some (.bytes ((d.getResponse msg).1 ++ [0]))
        else if r = heap.next then
          some (.responses
            (some (heap.next + 1) :: List.replicate rest.length none))
        else heap.read r := by
  have hnext : (arrayAllocated heap (rest.length + 1)).heap.next =
      heap.next + 1 := Heap.next_alloc _ heap
  obtain ⟨m, hfill, hresp, hreads⟩ :=
    fill_zero d rfl (read_array heap rest.length) hmalloc msg rest
  refine ⟨m, (respond_of_calloc hcalloc).trans hfill, hresp, fun r => ?_⟩
  rw [hreads, hnext, read_arrayAllocated]
  split
  · rfl
  · split
    · rfl
    · rfl

theorem answersWellFormed_iff (h : PamBackend.acceptsCount msgs = true) :
    AnswersWellFormed a d heap pointer msgs ↔
      msgs.length = 1 ∨ a.succeeds 0 = false ∨ a.succeeds 1 = false := by
  cases msgs with
  | nil => exact absurd h (by decide)
  | cons msg rest =>
    cases hcalloc : a.succeeds 0 with
    | false =>
        exact iff_of_true (answersWellFormed_of_bufErr
          (respond_of_no_calloc hcalloc) rfl (fun _ => rfl)
          ⟨0, Nat.zero_le _, hcalloc⟩) (Or.inr (Or.inl rfl))
    | true =>
        cases hmalloc : a.succeeds 1 with
        | false =>
            exact iff_of_true
              (answersWellFormed_of_no_malloc hcalloc hmalloc msg rest)
              (Or.inr (Or.inr rfl))
        | true =>
            obtain ⟨m, hrespond, hresp, hreads⟩ :=
              respond_of_malloc d heap pointer hcalloc hmalloc msg rest
            cases rest with
            | nil =>
                exact iff_of_true (answersWellFormed_of_single hcalloc hmalloc
                  hrespond hresp hreads) (Or.inl rfl)
            | cons second rest =>
                rw [fill_one a (d.getResponse msg).2 hresp second rest]
                  at hrespond
                refine iff_of_false ?_ (by simp)
                rintro ⟨result, m', heq, _⟩
                rw [hrespond] at heq
                exact absurd heq (by simp)

/-- Once the answers are known, the call is as well formed as they are. -/
theorem wellFormed_iff_of_answering {d' : PamData} {conv : Conversation}
    (h : PamBackend.answering d conv = some d') :
    WellFormed a d heap pointer conv ↔
      AnswersWellFormed a d' heap pointer conv.msgs := by
  have hresponses := PamBackend.converse_of_answering h
  have hconverse : converse a d (before heap pointer) conv =
      (do
        let r ← respond a d' (before heap pointer) conv.msgs
        .ok (some r.1, r.2)) := by
    rw [converse, h]
  constructor
  · rintro ⟨result, m, hrun, hsame, hend⟩
    rw [hconverse] at hrun
    cases hrespond : respond a d' (before heap pointer) conv.msgs with
    | error fault =>
        rw [hrespond] at hrun
        exact absurd hrun (by simp [Bind.bind, Except.bind])
    | ok r =>
        rw [hrespond] at hrun
        obtain ⟨rfl, rfl⟩ : some r.1 = result ∧ r.2 = m := by
          simpa [Bind.bind, Except.bind] using hrun
        obtain ⟨hsuccess, hbufErr⟩ := hend _ hresponses
        exact ⟨r.1, r.2, hrespond, hsame,
          fun hmemory => ⟨Option.some.inj (hsuccess hmemory).1,
            (hsuccess hmemory).2⟩,
          fun hmemory => ⟨Option.some.inj (hbufErr hmemory).1,
            (hbufErr hmemory).2⟩⟩
  · rintro ⟨result, m, hrespond, hsame, hsuccess, hbufErr⟩
    refine ⟨some result, m, ?_, hsame, fun responses hconv => ?_⟩
    · rw [hconverse, hrespond]
      rfl
    · rw [hresponses] at hconv
      obtain rfl := ConvResult.success.inj hconv
      exact ⟨fun hmemory => ⟨congrArg some (hsuccess hmemory).1,
          (hsuccess hmemory).2⟩,
        fun hmemory => ⟨congrArg some (hbufErr hmemory).1,
          (hbufErr hmemory).2⟩⟩

end calls

end ResponseMemory

open ResponseMemory in
/-- A call stays in its memory and leaves a well formed array, or none, if
and only if it does not get to its answers, is about a single message, or
finds no memory for the array or the first response. -/
theorem responseArray_wellFormed_iff (a : Allocator) (d : PamData)
    (heap : Heap Block) (pointer : Option Nat) (conv : Conversation) :
    WellFormed a d heap pointer conv ↔
      PamBackend.answering d conv = none ∨ conv.msgs.length = 1 ∨
        a.succeeds 0 = false ∨ a.succeeds 1 = false := by
  cases hanswer : PamBackend.answering d conv with
  | none =>
      have hconverse : converse a d (before heap pointer) conv =
          .ok (none, before heap pointer) := by
        rw [converse, hanswer]
      exact iff_of_true ⟨none, before heap pointer, hconverse, fun _ _ => rfl,
        fun responses hresponses => absurd hresponses
          (PamBackend.converse_of_not_answering hanswer responses)⟩
        (Or.inl rfl)
  | some d' =>
      rw [wellFormed_iff_of_answering hanswer,
        answersWellFormed_iff (PamBackend.acceptsCount_of_answering hanswer)]
      simp

/-- A user name and a password in one call: the second response is written
behind the one pointer PAM passes. -/
theorem responseArray_not_wellFormed :
    ¬ ∀ (a : Allocator) (d : PamData) (heap : Heap Block)
        (pointer : Option Nat) (conv : Conversation),
        PamBackend.acceptsCount conv.msgs = true →
          ResponseMemory.WellFormed a d heap pointer conv := by
  intro h
  obtain ⟨result, m, hrun, _⟩ := h ⟨fun _ => true, 0⟩ {} ⟨[]⟩ none
    ⟨[⟨.promptEchoOn, "login:"⟩, ⟨.promptEchoOff, "Password:"⟩], some⟩
    (by decide)
  have hfault : ResponseMemory.converse ⟨fun _ => true, 0⟩ {}
      (ResponseMemory.before ⟨[]⟩ none)
      ⟨[⟨.promptEchoOn, "login:"⟩, ⟨.promptEchoOff, "Password:"⟩], some⟩ =
      .error (.outOfRange 1) := rfl
  rw [hfault] at hrun
  exact absurd hrun (by simp)

end PlasmaLogin
