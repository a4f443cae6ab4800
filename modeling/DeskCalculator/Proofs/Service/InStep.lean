import DeskCalculator.Proofs.Service.Session
import DeskCalculator.Proofs.Settings.Store

/-!
# The session is in step with the store

The session has a precision of its own, and the settings in the store have one.  The
two are the same (`inStep_after`): a session starts with the stored precision, and a
request that changes the stored settings either fails and leaves them alone, or hands
what it has stored to the session (`Store.Settles`).

That needs a store which can be written again.  If it holds something that cannot be
encoded, a request to change a setting destroys it halfway, and the session keeps a
precision that is no longer stored.
-/

namespace DeskCalculator

variable [Platform]

namespace Store

variable {store : Store} {outcome : Except Failure Settings × Store}

/-! ## The store -/

/-- Whether what is in the store can be loaded and written again. -/
def Savable (store : Store) : Prop :=
  ∃ fields, store.load = .ok fields ∧ OthersWritable fields

/-- Whether an operation has given the settings that are then read from the store. -/
def Adopts (outcome : Except Failure Settings × Store) : Prop :=
  outcome.2 ≠ directory ∧ outcome.2.Savable ∧
    ∃ settings, outcome.1 = .ok settings ∧ outcome.2.settings = .ok settings

/-- Whether an operation has stored settings, or failed and left the store alone. -/
def Settles (store : Store) (outcome : Except Failure Settings × Store) : Prop :=
  (∃ failure, outcome = (.error failure, store)) ∨ Adopts outcome

theorem othersWritable_defaultFields : OthersWritable defaultFields := by
  intro field hfield hname
  rw [List.mem_singleton.1 hfield] at hname
  exact absurd rfl hname

/-- Saving into anything but a directory gives what is read afterwards. -/
theorem Savable.adopts_save (h : store.Savable) (hstore : store ≠ directory)
    (changes : Json.Fields) : Adopts (store.save changes) := by
  obtain ⟨fields, hload, hothers⟩ := h
  have hsave := save_eq hstore hload hothers changes
  have hafter := load_save hstore hload hothers changes
  have hwellFormed := (settingsOf fields).wellFormed_updated changes
  -- the fields of others are what they were, so the next change can be written as well
  have hsavable : (store.save changes).2.Savable :=
    ⟨_, hafter, hothers.set (fieldsFit_load hload).names _⟩
  refine ⟨?_, hsavable, _, congrArg Prod.fst hsave, ?_⟩
  · rw [hsave]
    exact nofun
  · rw [settings_eq hafter, settingsOf_set hwellFormed]

theorem Savable.settles_save (h : store.Savable) (changes : Json.Fields) :
    Settles store (store.save changes) := by
  by_cases hstore : store = directory
  · -- nothing is written to a directory
    subst hstore
    exact .inl ⟨.isDirectory, rfl⟩
  · exact .inr (h.adopts_save hstore changes)

theorem Savable.settles_saveTheme (h : store.Savable) (colours : Json) :
    Settles store (store.saveTheme colours) := by
  unfold saveTheme
  cases Palette.ofJson colours with
  | error fault => exact .inl ⟨.palette fault, rfl⟩
  | ok palette => exact h.settles_save _

private theorem settles_clear (store : Store) :
    Settles store (store.clear.1.bind fun () => store.clear.2.settings, store.clear.2) := by
  by_cases hstore : store = directory
  · subst hstore
    exact .inl ⟨.isDirectory, rfl⟩
  have hwritable : (Json.object defaultFields).isWritable = true := by
    rw [Json.isWritable_object, defaultFields, List.all_cons, List.all_nil,
      Text.isEncodable_of_all (by decide), Settings.wellFormed_default.isWritable_toJson]
    rfl
  have hwrite := write_eq hstore hwritable
  have hload := load_file_indented fieldsFit_defaultFields
  rw [clear, hwrite]
  exact .inr ⟨nofun, ⟨_, hload, othersWritable_defaultFields⟩, _, settings_eq hload,
    settings_eq hload⟩

end Store

namespace Service

namespace App

open Keypad Session Store

variable {app next : App} {session : Session}

/-! ## The session is in step with the store -/

/-- A request that stores a palette writes twice, and the second time cannot fail. -/
theorem settles_storeChanges {store : Store} (h : store.Savable) (request : SettingsRequest)
    (palette : Option Palette) : Settles store (storeChanges store request palette) := by
  unfold storeChanges
  cases request.theme with
  | some theme => exact h.settles_save _
  | none =>
      cases palette with
      | none => exact h.settles_save _
      | some colours =>
          simp only
          rcases h.settles_saveTheme (.object colours.toFields) with ⟨failure, hfailed⟩ | hadopts
          · rw [hfailed]
            exact .inl ⟨failure, rfl⟩
          · -- the palette is in a file now, and not in a directory
            obtain ⟨hfile, hsavable, settings, hsettings, -⟩ := hadopts
            generalize store.saveTheme (.object colours.toFields) = saved at *
            obtain ⟨result, written⟩ := saved
            cases hsettings
            exact .inr (hsavable.adopts_save hfile _)

/-- The session, where there is one, has the precision that is stored, and the store can be written
again. -/
structure InStep (app : App) : Prop where
  savable : app.store.Savable
  precision : ∀ session, app.session = some session →
    app.storedPrecision = .ok session.precision

theorem storedPrecision_eq {settings : Settings} (h : app.store.settings = .ok settings) :
    app.storedPrecision = .ok settings.precision := by
  rw [storedPrecision, h]
  rfl

/-- A session that is made ready has the stored precision. -/
theorem InStep.exists_ready (h : InStep app) :
    ∃ session, app.ready = .ok session ∧ app.storedPrecision = .ok session.precision := by
  unfold ready
  split
  · next session hpresent => exact ⟨session, rfl, h.precision session hpresent⟩
  · obtain ⟨fields, hload, -⟩ := h.savable
    have hstored := storedPrecision_eq (settings_eq hload)
    rw [hstored]
    exact ⟨_, rfl, rfl⟩

theorem InStep.storedPrecision_of_ready (h : InStep app) (hready : app.ready = .ok session) :
    app.storedPrecision = .ok session.precision := by
  obtain ⟨found, hfound, hprecision⟩ := h.exists_ready
  cases hfound.symm.trans hready
  exact hprecision

/-- Another session with the stored precision is in step as well. -/
theorem InStep.withSession (h : InStep app)
    (hprecision : app.storedPrecision = .ok session.precision) :
    InStep (app.withSession session) := by
  refine ⟨h.savable, ?_⟩
  intro present hpresent
  cases hpresent
  exact hprecision

/-- The session follows the settings that an operation has stored. -/
theorem InStep.settled (h : InStep app) (hready : app.ready = .ok session)
    {outcome : Except Store.Failure Settings × Store} (settles : Settles app.store outcome) :
    InStep (app.settled session outcome).app := by
  rcases settles with ⟨failure, rfl⟩ | ⟨-, hsavable, settings, hsettings, hstored⟩
  · exact h.withSession (h.storedPrecision_of_ready hready)
  · obtain ⟨result, written⟩ := outcome
    cases hsettings
    refine ⟨hsavable, ?_⟩
    intro present hpresent
    cases hpresent
    exact storedPrecision_eq hstored

/-- A key and the solver that it starts leave the store alone, and the precision of the session. -/
theorem pressKey_app (app : App) (session : Session) (label : String) (world : World) :
    ∃ last, (app.pressKey session label world).app = app.withSession last ∧
      last.precision = session.precision := by
  unfold pressKey
  cases hpress : session.press label world.clock with
  | error failure => exact ⟨session, rfl, rfl⟩
  | ok outcome =>
      obtain ⟨between, action⟩ := outcome
      have hbetween := (move_press hpress).precision
      simp only
      split_ifs
      · have hsolved := move_solve between (some (app.solver world)) world.clock
        exact ⟨_, rfl, hsolved.precision.trans hbetween⟩
      · exact ⟨between, rfl, hbetween⟩

theorem InStep.change (h : InStep app) (change : Change app next) : InStep next := by
  cases change with
  | stay => exact h
  | prepare ready => exact h.withSession (h.storedPrecision_of_ready ready)
  | key ready label world =>
      obtain ⟨last, happ, hprecision⟩ := pressKey_app app _ label world
      rw [happ]
      exact h.withSession (hprecision ▸ h.storedPrecision_of_ready ready)
  | forget ready =>
      have hprecision := h.storedPrecision_of_ready ready
      exact h.withSession hprecision
  | store ready request palette => exact h.settled ready (settles_storeChanges h.savable ..)
  | reset ready => exact h.settled ready (settles_clear app.store)

/-- From a store that can be written again, any requests leave the session in step with it. -/
theorem inStep_after {store : Store} (h : store.Savable) (client : Remote.Client)
    (requests : List (Request × World)) : InStep ((start store client).after requests) :=
  after_induction (fun _ _ => InStep.change) requests ⟨h, nofun⟩

end App

end Service

end DeskCalculator
