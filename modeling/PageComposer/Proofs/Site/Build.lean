import PageComposer.Proofs.Site.Publish

/-!
# Building again

A build changes nothing outside its output directory except that it may make directories (`built_build`), and a
build of what another one has left leaves all contents as they are (`contents_of_build_again`).
-/

namespace PageComposer

open FileTree Workspace

namespace Site

def Separate (l l' : Location) : Prop := ¬l <+: l' ∧ ¬l' <+: l

instance (l l' : Location) : Decidable (Separate l l') := inferInstanceAs (Decidable (¬l <+: l' ∧ ¬l' <+: l))

theorem Separate.not_inside {out l : Location} (separate : Separate out l) (names : List Text) :
    ¬out <+: l ++ names := by
  intro inside
  rcases List.prefix_or_prefix_of_prefix inside (List.prefix_append l names) with h | h
  · exact separate.1 h
  · exact separate.2 h

/-- The output of a project lies apart from its sources. -/
structure OutputApart (settings : Settings) (root : Path) (here : Location) : Prop where
  components : Separate ((settings.outputIn root).resolve here) ((settings.componentsIn root).resolve here)
  pages : Separate ((settings.outputIn root).resolve here) ((settings.pagesIn root).resolve here)
  assets : Separate ((settings.outputIn root).resolve here) ((settings.assetsIn root).resolve here)

instance (settings : Settings) (root : Path) (here : Location) : Decidable (OutputApart settings root here) :=
  decidable_of_iff (Separate ((settings.outputIn root).resolve here) ((settings.componentsIn root).resolve here) ∧
      Separate ((settings.outputIn root).resolve here) ((settings.pagesIn root).resolve here) ∧
      Separate ((settings.outputIn root).resolve here) ((settings.assetsIn root).resolve here))
    ⟨fun ⟨components, pages, assets⟩ => ⟨components, pages, assets⟩, fun h => ⟨h.components, h.pages, h.assets⟩⟩

variable {w w' : Workspace} {settings : Settings} {root : Path} {composer : Composer} {composed : List (Text × Text)}

theorem settles_published (sound : w.Sound) (proper : root.Proper) (apart : OutputApart settings root w.here)
    (done : w.outcome (plan settings root) = .ok (composer, composed)) :
    Settles ((settings.outputIn root).resolve w.here) (w.after (plan settings root))
      (publish (settings.assetsIn root) (settings.outputIn root) composed) := by
  have planned := plan_ok sound proper done
  have furnished := (repeats_plan settings sound proper).furnished
  have sameOutput : (settings.outputIn root).resolve (w.after (plan settings root)).here =
      (settings.outputIn root).resolve w.here := by
    rw [planned.isHere]
  refine settles_publish (furnished.sound sound) (proper.append_ofText _) ?_ ?_ ?_ planned.named
  · rw [planned.isHere]
    exact apart.assets.not_inside
  · exact sameOutput ▸ List.prefix_refl _
  · rw [planned.isHere]
    exact planned.output

theorem SameFilesBelow.of_published {out : Location} (published : Published out w w') {base : Path}
    (separate : Separate out (base.resolve w.here)) : SameFilesBelow w w' base := by
  intro names content changed _
  rw [published.apart _ (separate.not_inside names)]

theorem after_build_of_planned (done : w.outcome (plan settings root) = .ok (composer, composed)) :
    w.after (build settings root) = (w.after (plan settings root)).after
      (publish (settings.assetsIn root) (settings.outputIn root) composed) := by
  rw [build, after_bind_of_ok done]
  dsimp only
  rw [after_bind]
  cases ((w.after (plan settings root)).outcome
    (publish (settings.assetsIn root) (settings.outputIn root) composed)) <;> rfl

/-- What a build does: directories may appear everywhere, files only in the output. -/
structure Built (out : Location) (w w' : Workspace) : Prop where
  here : w'.here = w.here
  grows : w.tree.Grows w'.tree
  outside : ∀ l, ¬out <+: l →
    w'.tree.find? l = w.tree.find? l ∨ w.tree.find? l = none ∧ w'.tree.find? l = some .directory
  sound : w.Sound → w'.Sound

theorem Built.of_furnished {out : Location} (furnished : w.Furnished w') : Built out w w' :=
  ⟨furnished.here, furnished.grows, fun l _ => furnished.found l, furnished.sound⟩

theorem Built.of_published {out : Location} {planned : Workspace} (furnished : w.Furnished planned)
    (published : Published out planned w') : Built out w w' where
  here := published.here.trans furnished.here
  grows := furnished.grows.trans published.grows
  outside := fun l apart => by
    rw [published.apart l apart]
    exact furnished.found l
  sound := fun sound => published.sound (furnished.sound sound)

theorem built_build (sound : w.Sound) (proper : root.Proper) (apart : OutputApart settings root w.here) :
    Built ((settings.outputIn root).resolve w.here) w (w.after (build settings root)) := by
  have furnished := (repeats_plan settings sound proper).furnished
  cases done : w.outcome (plan settings root) with
  | error e =>
      rw [after_build_of_refused done]
      exact .of_furnished furnished
  | ok planned =>
      rw [after_build_of_planned done]
      exact .of_published furnished (settles_published sound proper apart done).published

theorem later_of_built (sound : w.Sound) (proper : root.Proper) (apart : OutputApart settings root w.here)
    (done : w.outcome (plan settings root) = .ok (composer, composed))
    (files : (w.after (build settings root)).SameFiles w') :
    Later (settings.componentsIn root) (settings.pagesIn root) (w.after (plan settings root)) w' := by
  have furnished := (repeats_plan settings sound proper).furnished
  have published := (settles_published sound proper apart done).published
  rw [after_build_of_planned done] at files
  have toEnd : Published ((settings.outputIn root).resolve w.here) (w.after (plan settings root)) w' :=
    trans_of _ published (.of_sameFiles files)
  refine ⟨toEnd.sound (furnished.sound sound), toEnd.here, toEnd.grows, .of_published toEnd ?_, .of_published toEnd ?_⟩
  · rw [furnished.here]
    exact apart.components
  · rw [furnished.here]
    exact apart.pages

theorem beside_of_built (sound : w.Sound) (proper : root.Proper) (apart : OutputApart settings root w.here)
    (done : w.outcome (plan settings root) = .ok (composer, composed))
    (files : (w.after (build settings root)).SameFiles w')
    (unchanged : w'.SameFiles (w'.after (plan settings root))) :
    Beside ((settings.outputIn root).resolve w.here) ((w.after (plan settings root)).after
      (publish (settings.assetsIn root) (settings.outputIn root) composed)).tree
      (w.after (plan settings root)) (w'.after (plan settings root)) := by
  have later := later_of_built sound proper apart done files
  have settles := settles_published sound proper apart done
  rw [after_build_of_planned done] at files
  have tree : (w'.after (plan settings root)).tree = _ := unchanged.tree.trans files.tree
  refine ⟨unchanged.here.trans later.here, (repeats_plan settings sound proper).furnished.sound sound,
    later.sound.of_sameFiles unchanged, ?_, ?_, ?_⟩
  · intro m
    rw [tree]
  · intro m outside
    rw [tree]
    exact settles.published.apart m outside
  · intro m
    rw [tree]
    exact .inl rfl

theorem contents_of_build_again (sound : w.Sound) (proper : root.Proper) (apart : OutputApart settings root w.here)
    (files : (w.after (build settings root)).SameFiles w') (l : Location) :
    (w'.after (build settings root)).tree.content? l = w'.tree.content? l := by
  -- Building again changes no contents.
  have repeats := repeats_plan settings sound proper
  have sound' : w'.Sound := ((built_build sound proper apart).sound sound).of_sameFiles files
  have furnished' := (repeats_plan settings sound' proper).furnished
  cases done' : w'.outcome (plan settings root) with
  | error e =>
      rw [after_build_of_refused done', furnished'.content]
  | ok planned' =>
      cases done : w.outcome (plan settings root) with
      | error e =>
          rw [after_build_of_refused done] at files
          exact absurd done' (repeats.failed e done w' files planned')
      | ok planned =>
          have later := later_of_built sound proper apart done files
          obtain ⟨rfl, unchanged⟩ := repeats.again _ done w' later _ done'
          have beside := beside_of_built sound proper apart done files unchanged
          rw [after_build_of_planned done] at files
          rw [after_build_of_planned done', (settles_published sound proper apart done).contents beside, files.tree]

end Site
end PageComposer
