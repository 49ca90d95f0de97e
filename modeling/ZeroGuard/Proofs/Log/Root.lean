import Mathlib.Data.List.Induction
import ZeroGuard.Log.Root

namespace ZeroGuard.Log

theorem LineFormat.ofName_eq_json_iff {name : String} : ofName name = .json ↔ name = "json" := by
  unfold ofName
  split_ifs with same
  · exact iff_of_true rfl same
  · exact iff_of_false nofun same

/-- What may be asked of the root of the log. -/
inductive Event
  | setup (level format : String)
  | foreign (mark : Nat)

namespace Event

/-- The level and the format of a call of `setup`. -/
def call? : Event → Option (String × String)
  | setup level format => some (level, format)
  | foreign _ => none

/-- The level that a call of `setup` leaves, unless it stops with a fault. -/
def level? : Event → Option Nat
  | setup level _ => (levelNumber level).toOption
  | foreign _ => none

def mark? : Event → Option Nat
  | setup _ _ => none
  | foreign mark => some mark

end Event

namespace Handler

def format? : Handler → Option LineFormat
  | installed format => some format
  | foreign _ => none

def mark? : Handler → Option Nat
  | installed _ => none
  | foreign mark => some mark

variable {handlers : List Handler} {mark : Nat}

theorem eraseDups_concat (marks : List Nat) (mark : Nat) :
    (marks ++ [mark]).eraseDups =
      if mark ∈ marks then marks.eraseDups else marks.eraseDups ++ [mark] := by
  rw [List.eraseDups_append]
  split_ifs with known <;> simp [List.removeAll, known, List.eraseDups_cons]

theorem filterMap_format?_foreign (handlers : List Handler) :
    (handlers.filter isForeign).filterMap format? = [] := by
  rw [List.filterMap_eq_nil_iff]
  intro handler member
  have other := (List.mem_filter.mp member).2
  cases handler with
  | installed format => cases other
  | foreign mark => rfl

theorem filterMap_mark?_foreign (handlers : List Handler) :
    (handlers.filter isForeign).filterMap mark? = handlers.filterMap mark? := by
  rw [List.filterMap_filter]
  congr 1
  funext handler
  cases handler <;> rfl

theorem foreign_mem_iff : foreign mark ∈ handlers ↔ mark ∈ handlers.filterMap mark? := by
  rw [List.mem_filterMap]
  constructor
  · intro member
    exact ⟨_, member, rfl⟩
  · rintro ⟨handler, member, same⟩
    cases handler with
    | installed format => cases same
    | foreign other =>
      cases same
      exact member

/-- Handlers of others add nothing to what is put out. -/
theorem flatMap_write (stamp : String) (record : Record) (handlers : List Handler) :
    handlers.flatMap (write stamp record) =
      (handlers.filterMap format?).map fun format => record.entry (format.line stamp record) := by
  induction handlers with
  | nil => rfl
  | cons handler rest ih =>
    rw [List.flatMap_cons, ih]
    cases handler <;> rfl

end Handler

namespace Root

variable {root : Root} {events : List Event} {first : Nat}

def apply (root : Root) : Event → Root
  | .setup level format => (root.setup level format).1
  | .foreign mark => root.addForeign mark

/-- The root of the log as its history tells it: the last call of `setup` has installed the only
handler, those of others stand in the order in which they first came, and the level is that of the
last call without a fault. -/
structure Follows (first : Nat) (events : List Event) (root : Root) : Prop where
  installed : root.handlers.filterMap Handler.format? =
    ((events.filterMap Event.call?).getLast?.map fun call => LineFormat.ofName call.2).toList
  foreign : root.handlers.filterMap Handler.mark? = (events.filterMap Event.mark?).eraseDups
  level : root.level = ((events.filterMap Event.level?).getLast?).getD first

theorem setup_handlers (level format : String) (root : Root) :
    (root.setup level format).1.handlers =
      root.handlers.filter Handler.isForeign ++ [.installed (.ofName format)] := by
  unfold setup
  dsimp only
  split <;> rfl

theorem setup_level (level format : String) (root : Root) :
    (root.setup level format).1.level = (levelNumber level).toOption.getD root.level := by
  unfold setup
  dsimp only
  split <;> rename_i found <;> rw [found] <;> rfl

theorem setup_fault_iff (level format : String) (root : Root) (fault : Fault) :
    (root.setup level format).2 = some fault ↔ levelNumber level = .error fault := by
  unfold setup
  dsimp only
  split <;> rename_i found <;> rw [found] <;> simp

theorem Follows.setup (follows : Follows first events root) (level format : String) :
    Follows first (events ++ [.setup level format]) (root.setup level format).1 := by
  refine ⟨?_, ?_, ?_⟩
  · rw [setup_handlers, List.filterMap_append, Handler.filterMap_format?_foreign]
    simp only [List.filterMap_append, List.filterMap_cons, List.filterMap_nil, Handler.format?,
      Event.call?, List.getLast?_concat, List.nil_append, Option.map_some, Option.toList_some]
  · rw [setup_handlers, List.filterMap_append, Handler.filterMap_mark?_foreign, follows.foreign]
    simp only [List.filterMap_append, List.filterMap_cons, List.filterMap_nil, Handler.mark?,
      Event.mark?, List.append_nil]
  · rw [setup_level, follows.level]
    cases found : (levelNumber level).toOption with
    | none =>
      simp only [List.filterMap_append, List.filterMap_cons, List.filterMap_nil, Event.level?, found,
        List.append_nil, Option.getD_none]
    | some number =>
      simp only [List.filterMap_append, List.filterMap_cons, List.filterMap_nil, Event.level?, found,
        List.getLast?_concat, Option.getD_some]

/-- A handler that is there already stays in its place. -/
theorem Follows.addForeign (follows : Follows first events root) (mark : Nat) :
    Follows first (events ++ [.foreign mark]) (root.addForeign mark) := by
  have calls : (events ++ [Event.foreign mark]).filterMap Event.call? =
      events.filterMap Event.call? := by
    simp only [List.filterMap_append, List.filterMap_cons, List.filterMap_nil, Event.call?,
      List.append_nil]
  have levels : (events ++ [Event.foreign mark]).filterMap Event.level? =
      events.filterMap Event.level? := by
    simp only [List.filterMap_append, List.filterMap_cons, List.filterMap_nil, Event.level?,
      List.append_nil]
  have marks : (events ++ [Event.foreign mark]).filterMap Event.mark? =
      events.filterMap Event.mark? ++ [mark] := by
    simp only [List.filterMap_append, List.filterMap_cons, List.filterMap_nil, Event.mark?]
  have known : Handler.foreign mark ∈ root.handlers ↔ mark ∈ events.filterMap Event.mark? := by
    rw [Handler.foreign_mem_iff, follows.foreign, List.mem_eraseDups]
  unfold Root.addForeign
  split_ifs with present
  · refine ⟨?_, ?_, ?_⟩
    · rw [calls, follows.installed]
    · rw [marks, Handler.eraseDups_concat, if_pos (known.mp present), follows.foreign]
    · rw [levels, follows.level]
  · refine ⟨?_, ?_, ?_⟩
    · rw [calls, ← follows.installed]
      simp only [List.filterMap_append, List.filterMap_cons, List.filterMap_nil, Handler.format?,
        List.append_nil]
    · rw [marks, Handler.eraseDups_concat, if_neg (mt known.mpr present), ← follows.foreign]
      simp only [List.filterMap_append, List.filterMap_cons, List.filterMap_nil, Handler.mark?]
    · exact levels ▸ follows.level

theorem Follows.apply (follows : Follows first events root) (event : Event) :
    Follows first (events ++ [event]) (root.apply event) := by
  cases event with
  | setup level format => exact follows.setup level format
  | foreign mark => exact follows.addForeign mark

/-- The root after everything that has been asked of it. -/
def replay (root : Root) (events : List Event) : Root :=
  events.foldl apply root

theorem replay_follows (empty : root.handlers = []) (events : List Event) :
    Follows root.level events (root.replay events) := by
  induction events using List.reverseRecOn with
  | nil =>
    refine ⟨?_, ?_, rfl⟩
    · rw [replay, List.foldl_nil, empty]
      rfl
    · rw [replay, List.foldl_nil, empty]
      rfl
  | append_singleton events event ih =>
    rw [replay, List.foldl_append]
    exact ih.apply event

theorem Follows.count_installed (follows : Follows first events root) :
    (root.handlers.filterMap Handler.format?).length =
      if events.filterMap Event.call? = [] then 0 else 1 := by
  rw [follows.installed]
  split_ifs with none
  · rw [none]
    rfl
  · rw [List.getLast?_eq_some_getLast none]
    rfl

theorem write_of_installed {format : LineFormat} (stamp : String) {record : Record}
    (one : root.handlers.filterMap Handler.format? = [format]) (passes : root.passes record = true) :
    root.write stamp record = [record.entry (format.line stamp record)] := by
  have nonempty : root.handlers.isEmpty = false := by
    cases same : root.handlers with
    | nil =>
      rw [same] at one
      cases one
    | cons _ _ => rfl
  simp only [write, passes, nonempty, Bool.false_eq_true, if_true, if_false]
  rw [Handler.flatMap_write, one, List.map_cons, List.map_nil]

theorem write_below (stamp : String) {record : Record} (below : root.passes record = false) :
    root.write stamp record = [] := by
  rw [write, below, if_neg Bool.false_ne_true]

/-- With one installed handler there is one entry for each record that passes, in the order of the
records. -/
theorem flatMap_write {format : LineFormat} (stamp : String) (records : List Record)
    (one : root.handlers.filterMap Handler.format? = [format]) :
    records.flatMap (root.write stamp) =
      (records.filter root.passes).map fun record => record.entry (format.line stamp record) := by
  induction records with
  | nil => rfl
  | cons record rest ih =>
    rw [List.flatMap_cons, ih]
    cases passes : root.passes record with
    | true =>
      rw [write_of_installed stamp one passes, List.filter_cons_of_pos passes]
      rfl
    | false =>
      rw [write_below stamp passes, List.filter_cons_of_neg (Bool.eq_false_iff.mp passes)]
      rfl

end Root

end ZeroGuard.Log
