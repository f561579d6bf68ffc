import ClusterReady.Proofs.ReadBack

/-!
# Configurations are read back

The document that is written for a configuration is read as the same configuration: each part
restores its own entries, and the entries of a target are found again among those of the resource
that has it.
-/

namespace ClusterReady

open Yaml (Reads Written)

theorem CountRange.reads (r : CountRange) : Reads yamlDecoder r.toJson r := by
  intro path
  have hends : Reads (Yaml.record "RawCountRange" ((0, 0) : Nat × Nat) [
      .required "min" Yaml.word32 fun v r => (v, r.2),
      .required "max" Yaml.word32 fun v r => (r.1, v)]) r.toJson (r.min.toNat, r.max.toNat) :=
    Yaml.reads_record (.entry (.required (Yaml.reads_word32 r.min))
      (.entry (.required (Yaml.reads_word32 r.max)) .nil)) (by decide)
  have hmake : make r.min.toNat.toUInt32 r.max.toNat.toUInt32 = .ok r :=
    make_eq_ok_iff.mpr ⟨by simp, by simp⟩
  rw [yamlDecoder, hends path]
  show (make r.min.toNat.toUInt32 r.max.toNat.toUInt32).mapError _ = .ok r
  rw [hmake]
  rfl

theorem PollingSettings.reads (p : PollingSettings) : Reads decoder p.toJson p :=
  Yaml.reads_record (.entry (.optional (Yaml.reads_seconds p.timeoutSecs))
    (.entry (.optional (Yaml.reads_seconds p.intervalSecs)) .nil)) (by decide)

theorem ConsistencySettings.reads (c : ConsistencySettings) : Reads decoder c.toJson c := by
  have h : Reads decoder c.toJson
      { c with requiredSuccesses := c.requiredSuccesses.toNat.toUInt32 } :=
    Yaml.reads_record (.entry (.optional (Yaml.reads_word32 c.requiredSuccesses))
      (.entry (.optional (Yaml.reads_seconds c.delaySecs)) .nil)) (by decide)
  simpa using h

theorem reads_text? (o : Option String) : Reads (Yaml.nullable Yaml.string) (.ofText? o) o := by
  have h := Reads.option Yaml.reads_string Yaml.shown_str o
  cases o <;> exact h

theorem reads_secs? (o : Option UInt64) : Reads (Yaml.nullable Yaml.seconds) (.ofSecs? o) o := by
  have h := Reads.option Yaml.reads_seconds (fun n => Yaml.shown_natural n.toNat) o
  cases o <;> exact h

theorem NodePool.reads (p : NodePool) : Reads decoder p.toJson p :=
  Yaml.reads_record (.entry (.optional (reads_text? p.selector))
    (.entry (.required p.count.reads)
      (.entry (.optional (reads_secs? p.timeoutSecs)) .nil))) (by decide)

theorem NamespacedName.reads (n : NamespacedName) : Reads decoder n.toJson n :=
  Yaml.reads_record (.entry (.required (Yaml.reads_string n.scope))
    (.entry (.required (Yaml.reads_string n.name)) .nil)) (by decide)

theorem StorageSettings.reads (s : StorageSettings) : Reads decoder s.toJson s :=
  Yaml.reads_record (.entry (.optional (Yaml.reads_boolean s.enabled))
    (.entry (.optional (reads_text? s.storageClass)) .nil)) (by decide)

theorem Provider.reads (p : Provider) : Reads (Yaml.variant choices) (.str p.name) p := by
  refine Yaml.reads_variant ?_
  cases p <;> decide

namespace ClusterResource

/-! ### Targets among the fields of their resources -/

theorem targetText_reads (s : String) : Reads targetText (.str s) s := fun _ => rfl

theorem targetText?_reads (s : String) : Reads targetText? (.str s) (some s) := fun _ => rfl

/-- The entries of a target stand for its fields; a plural is one of them when it is set. -/
theorem target_written (t : Target) :
    ∃ puts, Written targetFields t.toFields puts ∧ puts {} = t := by
  rcases t with ⟨group, version, kind, plural⟩
  cases plural with
  | none =>
      exact ⟨_, .entry (.optional (targetText_reads group))
        (.entry (.required (targetText_reads version))
          (.entry (.required (targetText_reads kind)) (.leftOut rfl .nil))), rfl⟩
  | some plural =>
      exact ⟨_, .entry (.optional (targetText_reads group))
        (.entry (.required (targetText_reads version))
          (.entry (.required (targetText_reads kind))
            (.entry (.optional (targetText?_reads plural)) .nil))), rfl⟩

def kept (entry : String × Json) : String × Yaml.Node := (entry.1, Yaml.Node.ofJson entry.2)

/-- The target is read back from its entries once they have been kept. -/
theorem targetOf_toFields (path : String) (t : Target) :
    targetOf path (t.toFields.map kept) = .ok t := by
  obtain ⟨puts, hwritten, hputs⟩ := target_written t
  have hread := hwritten.eachEntry (by decide) (fun _ t _ _ => .ok t) path {}
  rw [Yaml.ofFields_eq_map, hputs] at hread
  rw [targetOf, List.map_map]
  exact hread

theorem target_texts (t : Target) : ∀ entry ∈ t.toFields, ∃ s, entry.2 = .str s := by
  rcases t with ⟨group, version, kind, plural⟩
  cases plural <;> simp [Target.toFields]

theorem target_apart (t : Target) :
    ∀ entry ∈ t.toFields, ownFields.find? (·.name == entry.1) = none := by
  intro entry hmem
  obtain ⟨puts, hwritten, -⟩ := target_written t
  have hapart : ∀ name ∈ targetFields.map Yaml.Field.name,
      name ∉ ownFields.map Yaml.Field.name := by decide
  refine List.find?_eq_none.mpr fun field hfield heq => ?_
  refine hapart _ (hwritten.name_mem entry hmem) (List.mem_map.mpr ⟨field, hfield, ?_⟩)
  simpa using heq

theorem keepOther_reads (entry : String × Json) (h : ∃ s, entry.2 = .str s) (d : Draft) :
    Reads (keepOther entry.1 d) entry.2 { d with others := kept entry :: d.others } := by
  obtain ⟨s, hs⟩ := h
  intro path
  rw [kept, hs]
  rfl

theorem foldl_kept (entries : List (String × Json)) (d : Draft) :
    entries.foldl (fun d entry => { d with others := kept entry :: d.others }) d =
      { d with others := (entries.map kept).reverse ++ d.others } := by
  induction entries generalizing d with
  | nil => rfl
  | cons entry entries ih => simp [ih]

/-- A resource is read back, its target from the entries that are none of its own. -/
theorem reads (r : ClusterResource) : Reads decoder r.toJson r := by
  intro path
  have hown : Written ownFields [("namespace", .ofText? r.scope), ("name", .str r.name)]
      fun d => { d with scope := r.scope, name := r.name } :=
    .entry (.optional (reads_text? r.scope)) (.entry (.required (Yaml.reads_string r.name)) .nil)
  have hdraft : Yaml.eachEntry ownFields keepOther path {} []
      (Yaml.Node.ofFields (r.target.toFields ++
        [("namespace", .ofText? r.scope), ("name", .str r.name)])) =
      .ok { scope := r.scope, name := r.name, others := (r.target.toFields.map kept).reverse } := by
    rw [hown.eachEntry_behind (by decide) (target_apart r.target)
      (fun entry hmem => keepOther_reads entry (target_texts r.target entry hmem)),
      foldl_kept, List.append_nil]
  rw [toJson, Yaml.Node.ofJson, decoder]
  show (Yaml.eachEntry ownFields keepOther path {} [] _).bind _ = _
  rw [hdraft]
  show (targetOf path (r.target.toFields.map kept).reverse.reverse).bind _ = _
  rw [List.reverse_reverse, targetOf_toFields]
  rfl

end ClusterResource

/-- The document of a configuration, with its defaults and its `null`s, is read as that
configuration. -/
theorem SuiteConfig.decoder_toJson (c : SuiteConfig) (path : String) :
    decoder path (Yaml.Node.ofJson c.toJson) = .ok c := by
  have hcontrolPlane := Reads.option NodePool.reads (fun _ => Yaml.shown_obj _) c.controlPlane
  have hresource := Reads.option ClusterResource.reads (fun _ => Yaml.shown_obj _) c.clusterResource
  have hcertificates := Reads.list NamespacedName.reads c.certificates
  have hrecord : Reads decoder c.toJson c := Yaml.reads_record
    (.entry (.required c.provider.reads)
    (.entry (.optional (reads_text? c.clusterName))
    (.entry (.optional c.polling.reads)
    (.entry (.optional c.consistency.reads)
    (.entry (.optional hcontrolPlane)
    (.entry (.required c.workers.reads)
    (.entry (.optional (Yaml.reads_string c.systemNamespace))
    (.entry (.optional hresource)
    (.entry (.optional hcertificates)
    (.entry (.optional (Yaml.reads_boolean c.metricsApi))
    (.entry (.optional c.storage.reads) .nil))))))))))) (by decide)
  exact hrecord path

end ClusterReady
