import DtsBundle.CommandLine
import Mathlib.Data.List.Nodup
/-!
# What a command line gives, item by item

A command line gives items: values of settings, and switches.  What is given so far is known by the items in it, and an
item that fits makes no difference to what is given but that it is in it.  So **items that are given once each, in
whatever order, give the same** (`foldlM_add_of_perm`).
-/
namespace DtsBundle.CommandLine

/-- One thing that a command line gives: the value of a setting, or a switch. -/
inductive Item where
  | setting (setting : Setting) (value : Text)
  | switch (switch : Switch)
deriving DecidableEq, Repr

namespace Item

/-- The option that an item is given by. -/
def flag : Item → Flag
  | setting s _ => .setting s
  | switch s => .switch s

/-- An item is among what is given. -/
def IsIn (given : Given) : Item → Prop
  | setting s value => given.value? s = some value
  | switch s => given.isOn s = true

/-- An item can be given: its option was not given yet, and it is no path without a name. -/
def Fits (given : Given) : Item → Prop
  | setting s value => given.value? s = none ∧ (s.isPath = true → value ≠ [])
  | switch s => given.isOn s = false

/-- What is given with an item more. -/
def put (given : Given) : Item → Given
  | setting s value => given.withValue value s
  | switch s => given.on s

/-- Gives an item, unless it does not fit. -/
def add (given : Given) : Item → Except Refusal Given
  | setting s value => accept given s value
  | switch s => turnOn given s

end Item

namespace Given

theorem value?_withValue (given : Given) (value : Text) (s t : Setting) :
    (given.withValue value s).value? t = if s = t then some value else given.value? t := by
  cases s <;> cases t <;> rfl

theorem isOn_withValue (given : Given) (value : Text) (s : Setting) (t : Switch) :
    (given.withValue value s).isOn t = given.isOn t := by
  cases s <;> cases t <;> rfl

theorem value?_on (given : Given) (s : Switch) (t : Setting) : (given.on s).value? t = given.value? t := by
  cases s <;> cases t <;> rfl

theorem isOn_on (given : Given) (s t : Switch) : (given.on s).isOn t = (decide (s = t) || given.isOn t) := by
  cases s <;> cases t <;> rfl

/-- What is given is known by the items in it. -/
theorem eq_of_isIn {a b : Given} (h : ∀ item : Item, item.IsIn a ↔ item.IsIn b) : a = b := by
  have hvalue : ∀ s, a.value? s = b.value? s := fun s => Option.ext fun value => h (.setting s value)
  have hon : ∀ s, a.isOn s = b.isOn s := fun s => Bool.eq_iff_iff.2 (h (.switch s))
  cases a
  cases b
  rw [mk.injEq]
  exact ⟨hvalue .name, hvalue .filename, hvalue .dir, hvalue .tsc, hon .printUnit, hon .strict, hon .verbose, hon .debug⟩

/-- The items in what is given, in the order in which options are listed. -/
def items (given : Given) : List Item :=
  [Setting.name, .filename, .dir, .tsc].filterMap (fun s => (given.value? s).map (.setting s))
    ++ ([Switch.printUnit, .strict, .verbose, .debug].filter given.isOn).map .switch

theorem mem_items_iff {given : Given} {item : Item} : item ∈ given.items ↔ item.IsIn given := by
  have hsettings : ∀ s : Setting, s ∈ [Setting.name, .filename, .dir, .tsc] := by
    intro s
    cases s <;> decide
  have hswitches : ∀ s : Switch, s ∈ [Switch.printUnit, .strict, .verbose, .debug] := by
    intro s
    cases s <;> decide
  unfold items
  cases item with
  | setting s value => simp [Item.IsIn, hsettings]
  | switch s => simp [Item.IsIn, hswitches]

theorem nodup_flags_items (given : Given) : (given.items.map Item.flag).Nodup := by
  unfold items
  rw [List.map_append, List.map_filterMap, List.map_map, List.nodup_append]
  refine ⟨List.Nodup.filterMap ?_ (by decide), (List.Nodup.filter _ (by decide)).map ?_, ?_⟩
  · intro s t flag hs ht
    simp only [Option.map_map, Option.mem_def, Option.map_eq_some_iff] at hs ht
    obtain ⟨_, -, rfl⟩ := hs
    obtain ⟨_, -, hflag⟩ := ht
    exact (Flag.setting.inj hflag).symm
  · intro s t h
    exact Flag.switch.inj h
  · intro a ha b hb hab
    simp only [Option.map_map, List.mem_filterMap, Option.map_eq_some_iff, List.mem_map] at ha hb
    obtain ⟨s, -, value, -, rfl⟩ := ha
    obtain ⟨t, -, rfl⟩ := hb
    cases hab

end Given

/-! ## Items given one after the other -/

namespace Item

variable {given : Given} {item other : Item} {items : List Item}

theorem add_of_fits (h : item.Fits given) : item.add given = .ok (item.put given) := by
  cases item with
  | setting s value =>
    obtain ⟨hnew, hpath⟩ := h
    have hvalue : ¬ (s.isPath && value.isEmpty) = true := by
      rw [Bool.and_eq_true, List.isEmpty_iff]
      exact fun hempty => hpath hempty.1 hempty.2
    rw [add, accept, hnew, if_neg hvalue]
    rfl
  | switch s =>
    have hoff : given.isOn s = false := h
    rw [add, turnOn, hoff]
    rfl

/-- **An item that fits is put to those that are there.** -/
theorem isIn_put_iff (h : item.Fits given) : other.IsIn (item.put given) ↔ other = item ∨ other.IsIn given := by
  cases item with
  | setting s value =>
    cases other with
    | setting t value' =>
      rw [put, IsIn, IsIn, Given.value?_withValue]
      by_cases hst : s = t
      · subst hst
        simp [h.1, eq_comm]
      · simp [hst, Ne.symm hst]
    | switch t => simp [put, IsIn, Given.isOn_withValue]
  | switch s =>
    cases other with
    | setting t value' => simp [put, IsIn, Given.value?_on]
    | switch t =>
      rw [put, IsIn, IsIn, Given.isOn_on, Bool.or_eq_true, decide_eq_true_eq, switch.injEq, eq_comm]

/-- An item takes nothing from items of other options. -/
theorem Fits.put (h : other.Fits given) (hflag : item.flag ≠ other.flag) : other.Fits (item.put given) := by
  cases item with
  | setting s value =>
    cases other with
    | setting t value' =>
      have hst : s ≠ t := fun heq => hflag (congrArg Flag.setting heq)
      exact ⟨by rw [Item.put, Given.value?_withValue, if_neg hst, h.1], h.2⟩
    | switch t => exact (Given.isOn_withValue given value s t).trans h
  | switch s =>
    cases other with
    | setting t value' => exact ⟨(Given.value?_on given s t).trans h.1, h.2⟩
    | switch t =>
      have hst : s ≠ t := fun heq => hflag (congrArg Flag.switch heq)
      have hoff : given.isOn t = false := h
      rw [Fits, Item.put, Given.isOn_on, hoff, decide_eq_false hst]
      rfl

/-- Items of different options that fit are all given. -/
theorem exists_foldlM_add (hflags : (items.map flag).Nodup) (hfits : ∀ item ∈ items, item.Fits given) :
    ∃ given', items.foldlM add given = .ok given' ∧ ∀ item : Item, item.IsIn given' ↔ item ∈ items ∨ item.IsIn given := by
  induction items generalizing given with
  | nil => exact ⟨given, rfl, fun item => by simp⟩
  | cons first items ih =>
    rw [List.map_cons, List.nodup_cons] at hflags
    rw [List.forall_mem_cons] at hfits
    -- the others still fit, being of other options
    have hrest : ∀ item ∈ items, item.Fits (first.put given) := fun item hitem =>
      (hfits.2 item hitem).put fun heq => hflags.1 (heq ▸ List.mem_map_of_mem hitem)
    obtain ⟨given', hfold, hin⟩ := ih hflags.2 hrest
    refine ⟨given', ?_, fun item => ?_⟩
    · rw [List.foldlM_cons, add_of_fits hfits.1]
      exact hfold
    · rw [hin, isIn_put_iff hfits.1, List.mem_cons, ← or_assoc, or_comm (a := item ∈ items)]

/-- **What is given is given in any order of its items.** -/
theorem foldlM_add_of_perm (hitems : items.Perm given.items)
    (hpaths : ∀ s value, given.value? s = some value → s.isPath = true → value ≠ []) :
    items.foldlM add .nothing = .ok given := by
  have hflags : (items.map flag).Nodup := (hitems.map flag).nodup_iff.2 given.nodup_flags_items
  have hfits : ∀ item ∈ items, item.Fits .nothing := by
    intro item hitem
    have hin : item.IsIn given := Given.mem_items_iff.1 (hitems.mem_iff.1 hitem)
    cases item with
    | setting s value => exact ⟨by cases s <;> rfl, hpaths s value hin⟩
    | switch s => cases s <;> rfl
  have hnothing : ∀ item : Item, ¬ item.IsIn .nothing := by
    intro item
    cases item with
    | setting s value => cases s <;> exact nofun
    | switch s => cases s <;> exact nofun
  obtain ⟨given', hfold, hin⟩ := exists_foldlM_add hflags hfits
  have hsame : given' = given := Given.eq_of_isIn fun item => by
    rw [hin, or_iff_left (hnothing item), hitems.mem_iff, Given.mem_items_iff]
  rw [hfold, hsame]

end Item
end DtsBundle.CommandLine
