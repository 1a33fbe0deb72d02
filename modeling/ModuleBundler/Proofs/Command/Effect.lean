/-
ModuleBundler/Proofs/Command/Effect.lean

Main result: `Command.run_effect`.

What a run changes.  A command line is read before anything else, and what is printed or written
is known before anything is written, so a run fails without an effect (`run_of_error`), prints
(`run_print`) or saves (`run_save`).  Two command lines that differ in nothing but the output ask
for the same bundle (`bundle_output`).
-/
import ModuleBundler.Proofs.Command.Redirect
import ModuleBundler.Proofs.Files.Save

namespace ModuleBundler.Command

variable {fs : FileSystem} {env : Environment} {words : List String} {a : Arguments}

/-- The output of a command line has no part in its bundle. -/
theorem bundle_output (a : Arguments) (output : Option String) (files : Files) (env : Environment) :
    ({ a with output := output } : Arguments).bundle files env = a.bundle files env := rfl

theorem run_of_error (h : Arguments.ofWords words = .ok a) {e : RunError}
    (hbundle : a.bundle fs.files env = .error e) : run fs env words = (.failure e, fs) := by
  unfold run plan
  simp only [h, hbundle]
  rfl

theorem run_print (h : Arguments.ofWords words = .ok a) {text : String}
    (hbundle : a.bundle fs.files env = .ok text) (houtput : a.output = none) :
    run fs env words = (.success text, fs) := by
  unfold run plan
  simp only [h, hbundle, houtput]
  rfl

theorem run_save (h : Arguments.ofWords words = .ok a) {text path : String}
    (hbundle : a.bundle fs.files env = .ok text) (houtput : a.output = some path) :
    run fs env words = save fs path text := by
  unfold run plan
  simp only [h, hbundle, houtput]
  rfl

/-- **A run changes what it writes to and makes the directories on the way to it, and nothing
else.**  If there is no bundle, it changes nothing and prints nothing.  Otherwise, what it would
print without an output is written to any output that can be written to.  That may be a file that
was read before, under whatever name or behind a link; a device keeps nothing, and what is written
to the standard output is printed after all. -/
theorem run_effect (fs : FileSystem) (env : Environment) {words : List String} {a : Arguments}
    (h : Arguments.ofWords words = .ok a) :
    (∀ e, a.bundle fs.files env = .error e → run fs env words = (.failure e, fs)) ∧
      (a.output = none → (run fs env words).1.code = 0 → ∀ path,
        (path ≠ "" → Arguments.ofWords (("--output=" ++ path) :: words) =
          .ok { a with output := some path }) ∧
        ∀ words', Arguments.ofWords words' = .ok { a with output := some path } →
          ((run fs env words').1.code = 0 ↔ fs.Writable path) ∧
          (fs.Writable path → ∃ sink saved,
            run fs env words' = (.written (run fs env words).1.output sink, saved) ∧
            fs.Written saved path (run fs env words).1.output sink)) := by
  refine ⟨fun e => run_of_error h, fun hnone hcode path => ?_⟩
  rcases hbundle : a.bundle fs.files env with e | text
  · rw [run_of_error h hbundle] at hcode
    cases hcode
  rw [run_print h hbundle hnone]
  refine ⟨ofWords_output h hnone, fun words' h' => ?_⟩
  have hrun : run fs env words' = save fs path text :=
    run_save h' ((bundle_output a _ _ _).trans hbundle) rfl
  rw [hrun]
  exact ⟨save_iff_writable, fun hpath => exists_save hpath text⟩

/-- A program of two modules, and a link to one of them. -/
def site : FileSystem :=
  (((FileSystem.fresh "/site").add "main.js" (.file "import './f.js';".toUTF8)).add
    "f.js" (.file "f();".toUTF8)).add "latest.js" (.link "f.js")

theorem exists_bundle_site : ∃ text,
    ({ entry := "main.js" } : Arguments).bundle site.files {} = .ok text ∧ text ≠ "" := by
  have htext : (({ entry := "main.js" } : Arguments).bundle site.files {}).toOption.any
      (· != "") = true := by decide +kernel
  rcases hbundle : ({ entry := "main.js" } : Arguments).bundle site.files {} with e | text
  · rw [hbundle] at htext
    cases htext
  · rw [hbundle] at htext
    exact ⟨text, rfl, bne_iff_ne.1 htext⟩

/-- The bundle of a program replaces one of its modules behind a link, and a directory on the way
is made. -/
theorem site_effect :
    Arguments.ofWords ["-emain.js"] = .ok { entry := "main.js" } ∧
      (run site {} ["-emain.js"]).1.code = 0 ∧ site.Writable "dist/../latest.js" ∧
      ∃ sink saved, run site {} ["--output=dist/../latest.js", "-emain.js"] =
          (.written (run site {} ["-emain.js"]).1.output sink, saved) ∧
        site.Written saved "dist/../latest.js" (run site {} ["-emain.js"]).1.output sink := by
  have hwords : Arguments.ofWords ["-emain.js"] = .ok { entry := "main.js" } := rfl
  obtain ⟨text, hbundle, -⟩ := exists_bundle_site
  have hcode : (run site {} ["-emain.js"]).1.code = 0 := by
    rw [run_print hwords hbundle rfl]
    rfl
  have hpath : site.Writable "dist/../latest.js" := by decide +kernel
  obtain ⟨hread, heffect⟩ := (run_effect site {} hwords).2 rfl hcode "dist/../latest.js"
  exact ⟨hwords, hcode, hpath, (heffect _ (hread (by decide))).2 hpath⟩

/-- Two outputs that are no directories, though the directories on the way are there or can be
made, and that do not have the text afterwards.  One is a directory as soon as the directory on the
way is made, so nothing can be written to it; the other is the null device. -/
theorem site_output_lost :
    (run site {} ["-emain.js"]).1.code = 0 ∧ (run site {} ["-emain.js"]).1.output ≠ "" ∧
      (Arguments.ofWords ["--output=dist/..", "-emain.js"] =
          .ok { entry := "main.js", output := some "dist/.." } ∧
        site.isDirectory "dist/.." = false ∧ (site.makeDirectory "dist").toOption.isSome = true ∧
        (run site {} ["--output=dist/..", "-emain.js"]).1.code = 1) ∧
      Arguments.ofWords ["--output=/dev/null", "-emain.js"] =
          .ok { entry := "main.js", output := some "/dev/null" } ∧
        site.isDirectory "/dev/null" = false ∧ site.isDirectory "/dev" = true ∧
        (run site {} ["--output=/dev/null", "-emain.js"]).1.code = 0 ∧
        ((run site {} ["--output=/dev/null", "-emain.js"]).2.read "/dev/null").toOption =
          some "" := by
  obtain ⟨text, hbundle, hne⟩ := exists_bundle_site
  have hsave (path : String) (words : List String) (h : Arguments.ofWords words =
      .ok { entry := "main.js", output := some path }) : run site {} words = save site path text :=
    run_save h hbundle rfl
  rw [run_print rfl hbundle rfl, hsave "dist/.." _ rfl, hsave "/dev/null" _ rfl]
  have hdots : ¬ site.Writable "dist/.." := by decide +kernel
  have hnull : site.Writable "/dev/null" := by decide +kernel
  refine ⟨rfl, hne, ⟨rfl, by decide +kernel, by decide +kernel, code_save_of_not_writable hdots⟩,
    rfl, by decide +kernel, by decide +kernel, save_iff_writable.2 hnull, ?_⟩
  obtain ⟨sink, saved, hsaved, hwritten⟩ := exists_save hnull text
  rw [hsaved]
  -- what leads to a device reads as before
  have hdevice : ∃ names d, site.LeadsTo "/dev/null" names (.device d) :=
    ⟨_, _, rfl⟩
  obtain ⟨names, d, hlook⟩ := hdevice
  rcases hwritten.elsewhere hlook with hread | ⟨number, hfile, -⟩
  · rw [hread]
    decide +kernel
  · cases hfile

end ModuleBundler.Command
