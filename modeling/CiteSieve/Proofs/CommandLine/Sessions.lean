import CiteSieve.CommandLine.Session

/-!
# What effects do to a session

An effect is followed by running it on a session. Showing something changes what was shown,
writing a file changes the files; an effect that goes through hands its session on to the next
(`Effect.run_bind_ok`).

* `FileTree.read_of_write`: a file that was written holds what was written.
-/

namespace CiteSieve

/-! ## Files -/

/-- **A file that was written holds what was written.** -/
theorem FileTree.read_of_write {t t' : FileTree} {p : Path} {bytes : ByteArray}
    (h : t.write p bytes = .ok t') : t'.read p = .ok bytes := by
  unfold write at h
  split at h
  · cases h
  · cases h
    have hlookup :
        List.lookup p.resolved (t.put p.resolved (.file bytes)) = some (.file bytes) := by
      rw [Assoc.lookup_put, if_pos rfl]
    unfold read node?
    dsimp only
    rw [hlookup]

namespace CommandLine

open Console (Display)

namespace Effect

variable {α β : Type} {a : Effect α} {s s' : Session}

/-! ## Sequences -/

theorem run_bind_ok {f : α → Effect β} {x : α} (h : a.run.run s = (.ok x, s')) :
    (a >>= f).run.run s = (f x).run.run s' := by
  rw [ExceptT.run_bind, StateT.run_bind, h]
  rfl

/-! ## Single effects -/

theorem run_orElse_ok {ε : Type} {r : Except ε α} {fail : ε → Effect α} {x : α}
    (h : r = .ok x) : (orElse r fail).run.run s = (.ok x, s) := by
  rw [h]
  rfl

theorem run_orCrash_ok {ε : Type} {r : Except ε α} {crash : ε → Crash} {x : α}
    (h : r = .ok x) : (orCrash crash r).run.run s = (.ok x, s) :=
  run_orElse_ok h

theorem run_display_ok {d d' : Display} (h : d.shown = .ok d') :
    (display d).run.run s = (.ok (), { s with shown := s.shown ++ [d'] }) := by
  unfold display
  rw [h]
  rfl

theorem run_display_error {d : Display} {e : Console.UnmatchedTag} (h : d.shown = .error e) :
    (display d).run.run s = (.error (.crash (.tag e)), s) := by
  unfold display
  rw [h]
  rfl

theorem run_table_ok {t : Console.Table} {d : Display} (h : (Display.table t).shown = .ok d) :
    (table t).run.run s = (.ok (), { s with shown := s.shown ++ [d] }) :=
  run_display_ok h

/-- Showing something leaves the files as they are. -/
theorem files_display (d : Display) : ((display d).run.run s).2.files = s.files := by
  cases h : d.shown with
  | ok d' => rw [run_display_ok h]
  | error e => rw [run_display_error h]

theorem run_writeFile_ok {p : Path} {text : String} {t t' : FileTree}
    (hdir : s.files.makeDirectory p.parent = .ok t) (hwrite : t.write p text.toUTF8 = .ok t') :
    (writeFile p text).run.run s = (.ok (), { s with files := t' }) := by
  have hget : (get : Effect Session).run.run s = (.ok s, s) := rfl
  unfold writeFile
  rw [run_bind_ok hget]
  dsimp only
  rw [run_bind_ok (run_orCrash_ok hdir), run_bind_ok (run_orCrash_ok hwrite)]
  rfl

/-- What a command leaves behind is the session at its end, but for what is said about its use. -/
theorem files_conclude (a : Effect Unit) :
    (a.conclude s).session.files = (a.run.run s).2.files := by
  unfold conclude
  split <;> simp_all

end Effect

end CommandLine

end CiteSieve
