import Mathlib.Algebra.Ring.Nat
import ResilientProxy.Arena

/-!
# What an arena hands out

The users of an arena ask it for memory and write into the blocks that they were given, in any
order. A ledger lists what these blocks hold; it knows nothing of places in memory. After every use
the bytes of the arena are the blocks of the ledger one behind the other, so no block alters or
overlaps another, and how much is left is the budget less what the ledger holds.
-/

namespace ResilientProxy.Arena

/-- What an arena is asked for. -/
inductive Request where
  | zeroed (length : Nat)
  | copy (bytes : List UInt8)
  deriving DecidableEq, Repr

namespace Request

def length : Request → Nat
  | zeroed n => n
  | copy bytes => bytes.length

/-- What the block for a request holds at first. -/
def contents : Request → List UInt8
  | zeroed n => List.replicate n 0
  | copy bytes => bytes

@[simp] theorem length_contents (r : Request) : r.contents.length = r.length := by
  cases r <;> simp [contents, length]

end Request

/-- Answers a request. -/
def serve (a : Arena) : Request → Except ChannelError (Block × Arena)
  | .zeroed n => a.alloc n
  | .copy bytes => a.allocCopy bytes

/-- What the users of an arena do. -/
inductive Use where
  | ask (r : Request)
  /-- Writes `bytes` over the block with this number, from its start on. Who changes a part of a
  block writes the rest of it as it was. -/
  | overwrite (number : Nat) (bytes : List UInt8)
  deriving DecidableEq, Repr

/-- An arena and the blocks that its users were given, the first one first. -/
structure Tenancy where
  arena : Arena
  blocks : List Block
  deriving DecidableEq, Repr

namespace Tenancy

def start (budget : Nat) : Tenancy := ⟨.acquire budget, []⟩

def use (t : Tenancy) : Use → Tenancy
  | .ask r =>
    match t.arena.serve r with
    | .ok (b, a) => ⟨a, t.blocks ++ [b]⟩
    | .error _ => t
  | .overwrite number bytes =>
    match t.blocks[number]? with
    | some b => { t with arena := t.arena.write b bytes }
    | none => t

def useAll (t : Tenancy) (uses : List Use) : Tenancy := uses.foldl use t

/-- How many bytes were handed out in all. -/
def handedOut (t : Tenancy) : Nat := (t.blocks.map Block.length).sum

end Tenancy

/-- What the blocks hold that were handed out, the first one first. -/
abbrev Ledger := List (List UInt8)

namespace Ledger

def total (l : Ledger) : Nat := (l.map List.length).sum

/-- What a block holds that held `old` before `bytes` were written over it. -/
def overlay (bytes old : List UInt8) : List UInt8 :=
  bytes.take old.length ++ old.drop bytes.length

/-- What the blocks hold after one more use of a budget. -/
def enter (budget : Nat) (l : Ledger) : Use → Ledger
  | .ask r => if r.length ≤ budget - l.total then l ++ [r.contents] else l
  | .overwrite number bytes => l.modify number (overlay bytes)

def enterAll (budget : Nat) (l : Ledger) (uses : List Use) : Ledger := uses.foldl (enter budget) l

/-- The blocks of a ledger one behind the other, from the byte with the number `place` on. -/
def layout (place : Nat) : Ledger → List Block
  | [] => []
  | c :: l => ⟨place, c.length⟩ :: layout (place + c.length) l

section

variable {place : Nat} {bytes old : List UInt8} {l l' : Ledger}

@[simp] theorem total_nil : total [] = 0 := rfl

@[simp] theorem total_cons (c : List UInt8) (l : Ledger) : total (c :: l) = c.length + total l := rfl

@[simp] theorem length_overlay (bytes old : List UInt8) :
    (overlay bytes old).length = old.length := by
  simp only [overlay, List.length_append, List.length_take, List.length_drop]
  omega

theorem length_flatten_eq (l : Ledger) : l.flatten.length = total l := List.length_flatten

@[simp] theorem sum_length_layout (place : Nat) (l : Ledger) :
    ((layout place l).map Block.length).sum = total l := by
  induction l generalizing place with
  | nil => rfl
  | cons c l ih => simp [layout, ih]

@[simp] theorem length_layout (place : Nat) (l : Ledger) : (layout place l).length = l.length := by
  induction l generalizing place with
  | nil => rfl
  | cons c l ih => simp [layout, ih]

theorem layout_append (place : Nat) (l l' : Ledger) :
    layout place (l ++ l') = layout place l ++ layout (place + total l) l' := by
  induction l generalizing place with
  | nil => simp [layout]
  | cons c l ih => simp [layout, ih, Nat.add_assoc]

/-- A layout knows the lengths of the blocks and not what they hold. -/
theorem layout_overlay (place : Nat) (l l' : Ledger) (bytes old : List UInt8) :
    layout place (l ++ overlay bytes old :: l') = layout place (l ++ old :: l') := by
  simp [layout_append, layout]

/-- The blocks of a layout lie between its first byte and its last. -/
theorem mem_layout {b : Block} (h : b ∈ layout place l) :
    place ≤ b.start ∧ b.start + b.length ≤ place + total l := by
  induction l generalizing place with
  | nil => simp [layout] at h
  | cons c l ih =>
    rw [layout, List.mem_cons] at h
    simp only [total_cons]
    obtain rfl | h := h
    · exact ⟨Nat.le_refl _, by simp only; omega⟩
    · have := ih h
      omega

theorem pairwise_layout (place : Nat) (l : Ledger) :
    (layout place l).Pairwise fun b c => b.start + b.length ≤ c.start := by
  induction l generalizing place with
  | nil => exact .nil
  | cons c l ih => exact List.pairwise_cons.mpr ⟨fun b hb => (mem_layout hb).1, ih _⟩

end

end Ledger

open Ledger

section

variable {a : Arena} {b : Block} {r : Request} {bytes old rest rest' : List UInt8}

/-- Where a block lies decides what is read from it. -/
theorem read_eq (h : a.stored = rest ++ old ++ rest') :
    a.read ⟨rest.length, old.length⟩ = old := by
  simp [read, h]

/-- Where nothing is to be written, what stands there stays. -/
theorem mapIdx_eq_self {f : Nat → UInt8 → UInt8} (hf : ∀ i old, i < rest.length → f i old = old) :
    rest.mapIdx f = rest := by
  apply List.ext_getElem
  · simp
  · intro i hi _
    rw [List.getElem_mapIdx]
    exact hf i _ (by simpa using hi)

theorem mapIdx_eq_overlay (bytes old : List UInt8) :
    old.mapIdx (fun i o => (bytes[i]?).getD o) = overlay bytes old := by
  apply List.ext_getElem
  · simp
  · intro i hi _
    have hi : i < old.length := by simpa using hi
    rw [List.getElem_mapIdx]
    simp only [overlay, List.getElem_append, List.length_take]
    by_cases hb : i < bytes.length
    · rw [dif_pos (by omega), List.getElem_take, List.getElem?_eq_getElem hb, Option.getD_some]
    · have hmin : min old.length bytes.length = bytes.length := by omega
      rw [dif_neg (by omega), List.getElem_drop, List.getElem?_eq_none (by omega), Option.getD_none]
      simp only [hmin, Nat.add_sub_of_le (Nat.le_of_not_lt hb)]

/-- Bytes are written into one block and nowhere else. -/
theorem stored_write (h : a.stored = rest ++ old ++ rest') :
    (a.write ⟨rest.length, old.length⟩ bytes).stored = rest ++ overlay bytes old ++ rest' := by
  simp only [write, h, List.mapIdx_append, List.length_append]
  congr 1
  · congr 1
    · exact mapIdx_eq_self fun i _ hi => if_neg (by omega)
    · rw [← mapIdx_eq_overlay]
      apply List.mapIdx_eq_mapIdx_iff.mpr
      intro i hi
      simp [show i < old.length from hi, Nat.add_comm i]
  · exact mapIdx_eq_self fun i _ hi => if_neg (by omega)

theorem map_read_layout {l : Ledger} (h : a.stored = rest ++ l.flatten ++ rest') :
    (layout rest.length l).map a.read = l := by
  induction l generalizing rest with
  | nil => rfl
  | cons c l ih =>
    have hc : a.stored = rest ++ c ++ (l.flatten ++ rest') := by simp [h]
    have hl : a.stored = (rest ++ c) ++ l.flatten ++ rest' := by simp [h]
    have htail := ih hl
    rw [List.length_append] at htail
    rw [layout, List.map_cons, read_eq hc, htail]

theorem serve_of_le (h : r.length ≤ a.remaining) :
    ∃ a', a.serve r = .ok (a.freshBlock r.length, a') ∧ a'.capacity = a.capacity ∧
      a'.stored = a.stored ++ r.contents := by
  cases r with
  | zeroed n => exact ⟨_, dif_pos h, rfl, rfl⟩
  | copy bytes => exact ⟨_, dif_pos h, rfl, rfl⟩

theorem serve_of_lt (h : a.remaining < r.length) : a.serve r = .error .outOfMemory := by
  cases r with
  | zeroed n => exact dif_neg (Nat.not_le_of_lt h)
  | copy bytes => exact dif_neg (Nat.not_le_of_lt h)

end

/-- A tenancy keeps to a ledger: its arena holds the blocks of the ledger one behind the other. -/
structure Keeps (budget : Nat) (t : Tenancy) (l : Ledger) : Prop where
  capacity : t.arena.capacity = budget
  stored : t.arena.stored = l.flatten
  blocks : t.blocks = layout 0 l

namespace Keeps

variable {budget : Nat} {t : Tenancy} {l : Ledger}

theorem of_start (budget : Nat) : Keeps budget (.start budget) [] := ⟨rfl, rfl, rfl⟩

theorem used (h : Keeps budget t l) : t.arena.used = total l := by
  rw [Arena.used, h.stored, length_flatten_eq]

theorem handedOut (h : Keeps budget t l) : t.handedOut = total l := by
  rw [Tenancy.handedOut, h.blocks, sum_length_layout]

theorem remaining (h : Keeps budget t l) : t.arena.remaining = budget - total l := by
  rw [Arena.remaining, h.used, h.capacity]

theorem reads (h : Keeps budget t l) : t.blocks.map t.arena.read = l := by
  have hstored : t.arena.stored = [] ++ l.flatten ++ [] := by simp [h.stored]
  rw [h.blocks]
  exact map_read_layout hstored

/-- A block that was handed out lies before the bytes that are left. -/
theorem block_le (h : Keeps budget t l) {b : Block} (hb : b ∈ t.blocks) :
    b.start + b.length ≤ t.arena.used := by
  rw [h.blocks] at hb
  have := mem_layout hb
  have := h.used
  omega

theorem ask (h : Keeps budget t l) (r : Request) :
    Keeps budget (t.use (.ask r)) (enter budget l (.ask r)) := by
  have hremaining := h.remaining
  by_cases hr : r.length ≤ t.arena.remaining
  · obtain ⟨a, ha, hcapacity, hstored⟩ := serve_of_le hr
    simp only [Tenancy.use, ha, enter, if_pos (hremaining ▸ hr)]
    refine ⟨hcapacity.trans h.capacity, ?_, ?_⟩
    · simp [hstored, h.stored]
    · simp [h.blocks, layout_append, layout, freshBlock, h.used]
  · simp only [Tenancy.use, serve_of_lt (Nat.lt_of_not_le hr), enter, if_neg (hremaining ▸ hr)]
    exact h

theorem overwrite (h : Keeps budget t l) (number : Nat) (bytes : List UInt8) :
    Keeps budget (t.use (.overwrite number bytes)) (enter budget l (.overwrite number bytes)) := by
  by_cases hn : number < l.length
  · -- the block that is written lies between those before it and those behind it
    have hl : l = l.take number ++ l[number] :: l.drop (number + 1) := by simp
    have hlength : (l.take number).length = number := by simp [Nat.le_of_lt hn]
    have hmodify := List.modify_eq_take_cons_drop (f := overlay bytes) hn
    generalize l.take number = before at hl hlength hmodify
    generalize l[number] = old at hl hmodify
    generalize l.drop (number + 1) = behind at hl hmodify
    have hstored : t.arena.stored = before.flatten ++ old ++ behind.flatten := by
      simp [h.stored, hl]
    have hblock : t.blocks[number]? = some ⟨before.flatten.length, old.length⟩ := by
      rw [h.blocks, hl, layout_append, List.getElem?_append_right (by simp [hlength])]
      simp [layout, hlength, total]
    simp only [Tenancy.use, hblock, enter, hmodify]
    refine ⟨h.capacity, ?_, ?_⟩
    · rw [stored_write hstored]
      simp
    · rw [layout_overlay, ← hl]
      exact h.blocks
  · have hl : l.length ≤ number := Nat.le_of_not_lt hn
    have hblock : t.blocks[number]? = none := by simp [h.blocks, hl]
    simp only [Tenancy.use, hblock, enter, List.modify_eq_self hl]
    exact h

theorem use (h : Keeps budget t l) (u : Use) : Keeps budget (t.use u) (enter budget l u) := by
  cases u with
  | ask r => exact h.ask r
  | overwrite number bytes => exact h.overwrite number bytes

theorem useAll (h : Keeps budget t l) (uses : List Use) :
    Keeps budget (t.useAll uses) (enterAll budget l uses) := by
  induction uses generalizing t l with
  | nil => exact h
  | cons u uses ih => exact ih (h.use u)

end Keeps

/-- The figures of an arena with this budget and the bytes in it are those of its ledger, and what
is left is what a machine word makes of the difference. -/
structure Balanced (budget : UInt64) (t : Tenancy) (l : Ledger) : Prop where
  capacity : t.arena.capacity = budget.toNat
  used : t.arena.used = t.handedOut
  used_add_remaining : t.arena.used + t.arena.remaining = t.arena.capacity
  stored : t.arena.stored = l.flatten
  reads : t.blocks.map t.arena.read = l
  apart : t.blocks.Pairwise fun b c => b.start + b.length ≤ c.start
  difference : (budget - UInt64.ofNat t.arena.used).toNat = t.arena.remaining

/-- How one more request is answered. -/
structure Answers (budget : UInt64) (t : Tenancy) (r : Request) : Prop where
  granted_iff : (∃ b a, t.arena.serve r = .ok (b, a)) ↔ r.length ≤ budget.toNat - t.handedOut
  /-- The block holds what it was asked to hold, lies behind all earlier ones and leaves them as
  they are; its end is what a machine word makes of the sum. -/
  granted : ∀ b a, t.arena.serve r = .ok (b, a) →
    b.length = r.length ∧ a.read b = r.contents ∧
    (∀ c ∈ t.blocks, c.start + c.length ≤ b.start ∧ a.read c = t.arena.read c) ∧
    (UInt64.ofNat t.arena.used + UInt64.ofNat r.length).toNat = b.start + b.length
  /-- After a refusal all is as before, and what fits is still granted. -/
  refused : ∀ e, t.arena.serve r = .error e →
    e = .outOfMemory ∧ t.use (.ask r) = t ∧
    ∀ r' : Request, r'.length ≤ t.arena.remaining →
      ∃ b a, (t.use (.ask r)).arena.serve r' = .ok (b, a)

section

variable {budget : UInt64} {t : Tenancy} {l : Ledger}

theorem Keeps.balanced (h : Keeps budget.toNat t l) : Balanced budget t l where
  capacity := h.capacity
  used := h.used.trans h.handedOut.symm
  used_add_remaining := t.arena.used_add_remaining
  stored := h.stored
  reads := h.reads
  apart := h.blocks ▸ pairwise_layout 0 l
  difference := by
    have hsum := t.arena.used_add_remaining
    rw [h.capacity] at hsum
    have hlt := budget.toNat_lt_size
    have hused : (UInt64.ofNat t.arena.used).toNat = t.arena.used :=
      UInt64.toNat_ofNat_of_lt' (by omega)
    rw [UInt64.toNat_sub_of_le _ _ (by rw [UInt64.le_iff_toNat_le]; omega), hused]
    omega

/-- What fits is granted, behind all that was handed out before. -/
theorem Keeps.granted (h : Keeps budget.toNat t l) {r : Request} (hr : r.length ≤ t.arena.remaining)
    {b : Block} {a : Arena} (hb : t.arena.serve r = .ok (b, a)) :
    b.length = r.length ∧ a.read b = r.contents ∧
    (∀ c ∈ t.blocks, c.start + c.length ≤ b.start ∧ a.read c = t.arena.read c) ∧
    (UInt64.ofNat t.arena.used + UInt64.ofNat r.length).toNat = b.start + b.length := by
  obtain ⟨a', ha, -, -⟩ := serve_of_le hr
  obtain ⟨rfl, rfl⟩ : t.arena.freshBlock r.length = b ∧ a' = a := by simpa using ha.symm.trans hb
  have hreads := (h.ask r).reads
  simp only [Tenancy.use, ha, enter, if_pos (h.remaining ▸ hr), List.map_append] at hreads
  obtain ⟨hearlier, hnew⟩ := List.append_inj' hreads rfl
  rw [← h.reads] at hearlier
  have hfits : t.arena.used + r.length < UInt64.size := by
    have hsum := t.arena.used_add_remaining
    rw [h.capacity] at hsum
    have hlt := budget.toNat_lt_size
    omega
  refine ⟨rfl, by simpa using hnew, fun c hc => ⟨h.block_le hc, ?_⟩, ?_⟩
  · exact List.map_inj_left.mp hearlier c hc
  · rw [UInt64.toNat_add, UInt64.toNat_ofNat_of_lt' (by omega), UInt64.toNat_ofNat_of_lt' (by omega)]
    exact Nat.mod_eq_of_lt hfits

theorem Keeps.answers (h : Keeps budget.toNat t l) (r : Request) : Answers budget t r := by
  have hremaining : t.arena.remaining = budget.toNat - t.handedOut := by
    rw [h.remaining, h.handedOut]
  by_cases hr : r.length ≤ t.arena.remaining
  · obtain ⟨a, ha, -, -⟩ := serve_of_le hr
    exact {
      granted_iff := ⟨fun _ => hremaining ▸ hr, fun _ => ⟨_, a, ha⟩⟩
      granted := fun _ _ hb => h.granted hr hb
      refused := fun e he => nomatch ha.symm.trans he }
  · have hnone := serve_of_lt (Nat.lt_of_not_le hr)
    have hsame : t.use (.ask r) = t := by simp only [Tenancy.use, hnone]
    refine ⟨⟨?_, fun hle => absurd (hremaining ▸ hle) hr⟩, ?_, fun e he => ?_⟩
    · rintro ⟨b, a, ha⟩
      exact nomatch hnone.symm.trans ha
    · exact fun b a ha => nomatch hnone.symm.trans ha
    · refine ⟨(Except.error.inj (hnone.symm.trans he)).symm, hsame, fun r' hr' => ?_⟩
      obtain ⟨a, ha, -, -⟩ := serve_of_le hr'
      rw [hsame]
      exact ⟨_, a, ha⟩

end

/-- However an arena is used, it hands out exactly its budget: the books balance after every use,
and every further request is answered by what is left. -/
theorem hands_out_exactly_its_budget (budget : UInt64) (uses : List Use) :
    let t := (Tenancy.start budget.toNat).useAll uses
    Balanced budget t (enterAll budget.toNat [] uses) ∧ ∀ r, Answers budget t r := by
  intro t
  have h : Keeps budget.toNat t (enterAll budget.toNat [] uses) :=
    (Keeps.of_start budget.toNat).useAll uses
  exact ⟨h.balanced, h.answers⟩

/-- A request that is too long, between two that use the budget up to its last byte. -/
example :
    ((Tenancy.start 8).useAll
      [.ask (.zeroed 5), .ask (.copy [1, 2, 3, 4]), .overwrite 0 [9, 9], .ask (.copy [7, 7, 7])]) =
    ⟨⟨8, [9, 9, 0, 0, 0, 7, 7, 7], by decide⟩, [⟨0, 5⟩, ⟨5, 3⟩]⟩ := by
  decide

end ResilientProxy.Arena
