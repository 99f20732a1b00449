import AddressPool.Proofs.Address.RoundTrip
import AddressPool.Proofs.Cli.Arguments
import AddressPool.Proofs.Log

namespace AddressPool.Cli

def options (name : String) (values : List String) : List Given :=
  values.map fun value => ⟨name, some value⟩

def jobOptions (job : Job) (seed : UInt64) : List Given :=
  options "netspec" [job.network.text] ++ options "static" (job.statics.map Ip.text) ++
    options "identifier" job.identifiers ++ options "count" [Report.number job.count.toNat] ++
    options "seed" [Report.number seed.toNat]

def jobLine (job : Job) (seed : UInt64) : List String :=
  commandLine "allocate" [] (jobOptions job seed)

-- The file of a job is named in the argument of its option or in the next one, where it may not
-- look like an option itself.
def fileArguments (path : String) : List (List String) :=
  ["--config=" ++ path] :: if Token.isOptionLike path then [] else [["--config", path]]

theorem filter_options (name other : String) (values : List String) :
    (options other values).filter (fun given => given.name == name) =
      if other = name then options other values else [] := by
  unfold options
  split
  · rename_i same
    rw [List.filter_eq_self]
    intro given member
    obtain ⟨value, -, rfl⟩ := List.mem_map.mp member
    exact beq_iff_eq.mpr same
  · rename_i apart
    rw [List.filter_eq_nil_iff]
    intro given member
    obtain ⟨value, -, rfl⟩ := List.mem_map.mp member
    exact fun same => apart (eq_of_beq same)

theorem filterMap_options (name : String) (values : List String) :
    (options name values).filterMap Given.value = values := by
  rw [options, List.filterMap_map]
  exact List.filterMap_some

theorem options_fit {specs : List OptionSpec} {name : String}
    (fits : Given.Fits specs ⟨name, some ""⟩) (values : List String) :
    ∀ option ∈ options name values, option.Fits specs := by
  intro option member
  obtain ⟨value, -, rfl⟩ := List.mem_map.mp member
  exact fits.other value

section
variable (job : Job) (seed : UInt64)

theorem jobOptions_fit : ∀ option ∈ jobOptions job seed, option.Fits Command.allocateSpecs := by
  simp only [jobOptions, List.forall_mem_append]
  refine ⟨⟨⟨⟨?_, ?_⟩, ?_⟩, ?_⟩, ?_⟩ <;> exact options_fit (by decide) _

theorem filter_jobOptions (name : String) :
    (jobOptions job seed).filter (fun given => given.name == name) =
      (if "netspec" = name then options "netspec" [job.network.text] else []) ++
        (if "static" = name then options "static" (job.statics.map Ip.text) else []) ++
        (if "identifier" = name then options "identifier" job.identifiers else []) ++
        (if "count" = name then options "count" [Report.number job.count.toNat] else []) ++
        (if "seed" = name then options "seed" [Report.number seed.toNat] else []) := by
  simp only [jobOptions, List.filter_append, filter_options]

theorem jobOptions_sound :
    Arguments.isSound ⟨[], jobOptions job seed⟩ Command.allocateSpecs = true := by
  simp [Arguments.isSound, Command.allocateSpecs, Command.verboseSpec, Command.jobSpecs,
    filter_jobOptions, options]

theorem jobOptions_quiet : Arguments.has ⟨[], jobOptions job seed⟩ "verbose" = false := by
  have absent : (jobOptions job seed).filter (fun given => given.name == "verbose") = [] := by
    simp [filter_jobOptions]
  rw [Arguments.has, List.any_eq_false]
  exact List.filter_eq_nil_iff.mp absent

end

theorem readWord_number (word : UInt64) :
    Command.readWord (Report.number word.toNat) = some word := by
  have small : word.toNat < 1 <<< 64 := word.toNat_lt
  unfold Command.readWord
  rw [Report.number, String.toList_ofList]
  split
  · rename_i signed
    have digit := Text.isDigit_of_mem_numeral (signed ▸ List.mem_cons_self)
    cases digit
  · simp only [Text.number?_numeral, Option.bind_eq_bind, Option.bind_some]
    rw [if_pos small, UInt64.ofNat_toNat]

theorem jobOf_options {job : Job} {seed : UInt64} (seeded : job.seed = some seed) :
    Command.jobOf ⟨[], jobOptions job seed⟩ = some job := by
  have statics : (job.statics.map Ip.text).mapM Ip.parse? = some job.statics :=
    Text.mapM_written fun ip _ => ip.parse?_text
  have same : (⟨job.network, job.statics, job.identifiers, job.count, some seed⟩ : Job) = job := by
    rw [← seeded]
  unfold Command.jobOf
  simp [Arguments.value?, Arguments.values, filter_jobOptions, filterMap_options,
    job.network.parse?_text, statics, Command.optional, readWord_number, same]

theorem read_jobLine {job : Job} {seed : UInt64} (seeded : job.seed = some seed) :
    Invocation.read (jobLine job seed) = some (.run false (.allocate (.given job))) := by
  have unnamed : Arguments.value? ⟨[], jobOptions job seed⟩ "config" = none := by
    simp [Arguments.value?, Arguments.values, filter_jobOptions]
  have source : Command.sourceOf ⟨[], jobOptions job seed⟩ = some (.given job) := by
    rw [Command.sourceOf, unnamed, jobOf_options seeded]
    rfl
  have means : Command.allocateOf ⟨[], jobOptions job seed⟩ = some (.allocate (.given job)) := by
    rw [Command.allocateOf, source]
    rfl
  exact Invocation.read_commandLine (by decide) rfl (fun _ never => nomatch never)
    (jobOptions_fit job seed) (jobOptions_sound job seed) (jobOptions_quiet job seed) means

theorem scan_fileArguments {path : String} {arguments : List String}
    (naming : arguments ∈ fileArguments path) :
    Arguments.scan Command.allocateSpecs arguments = some ⟨[], options "config" [path]⟩ := by
  rcases List.mem_cons.mp naming with rfl | separate
  · have fit : ∀ option ∈ options "config" [path], option.Fits Command.allocateSpecs :=
      options_fit (by decide) [path]
    exact Arguments.scan_given fit
  · split at separate
    · cases separate
    · rename_i bare
      cases List.mem_singleton.mp separate
      have awaits : Token.read Command.allocateSpecs "--config" =
          .options [] (.awaits "config") := by decide
      rw [Arguments.scan, awaits]
      simp only [if_neg bare]
      rfl

theorem read_fileArguments {path : String} (named : path ≠ "") {arguments : List String}
    (naming : arguments ∈ fileArguments path) :
    Invocation.read ("allocate" :: arguments) = some (.run false (.allocate (.file path))) := by
  have given : Arguments.value? ⟨[], options "config" [path]⟩ "config" = some path := rfl
  have alone : ¬(path.isEmpty = true ∨ (Command.jobSpecs.any fun spec =>
      Arguments.has ⟨[], options "config" [path]⟩ spec.name) = true) := by
    have others : (Command.jobSpecs.any fun spec =>
        Arguments.has ⟨[], options "config" [path]⟩ spec.name) = false := rfl
    simp [named, others]
  have means : Command.allocateOf ⟨[], options "config" [path]⟩ =
      some (.allocate (.file path)) := by
    rw [Command.allocateOf, Command.sourceOf, given]
    simp only [if_neg alone]
    rfl
  exact Invocation.read_scanned (by decide) rfl (scan_fileArguments naming) rfl rfl means

theorem allocate_seeded {job : Job} {seed : UInt64} (seeded : job.seed = some seed)
    (entropy other : Generator) : job.allocate entropy = job.allocate other := by
  unfold Job.allocate
  rw [seeded]
  rfl

-- A job that is read from a file is allocated for like one that is given as options: the same is
-- shown, and the runs end alike.
theorem options_describe_file {files : String → FileText} {path : String} {text : Bytes}
    {job : Job} {seed : UInt64} (named : path ≠ "") (found : files path = .found text)
    (read : Job.read text = .ok job) (seeded : job.seed = some seed)
    (entropy other : Generator) (color : Bool) :
    ∃ answer, respond files entropy false color (jobLine job seed) = some answer ∧
      ∀ arguments ∈ fileArguments path,
        respond files other false color ("allocate" :: arguments) = some answer := by
  refine ⟨_, respond_run (read_jobLine seeded), ?_⟩
  intro arguments naming
  have run : Command.run files other (.allocate (.file path)) =
      ⟨.notice (.loadedJob path) :: (job.allocate entropy).events,
        (job.allocate entropy).succeeded⟩ := by
    rw [allocate_seeded seeded entropy other]
    simp only [Command.run, allocateFile, found, read]
    rfl
  have output : Display.output ⟨false, false, color⟩
      ⟨.notice (.loadedJob path) :: (job.allocate entropy).events,
        (job.allocate entropy).succeeded⟩ =
      Display.output ⟨false, false, color⟩ (job.allocate entropy) := by
    rw [Display.output_quiet rfl rfl, Display.output_quiet rfl rfl]
    rfl
  rw [respond_run (read_fileArguments named naming), run]
  exact congrArg some (Prod.ext output rfl)

-- A network with host bits and an identifier that looks like an option.
theorem options_describe_file_dashed :
    let text := Text.utf8 ("\x7b\"count\": 2, \"network\": \"10.0.0.9/29\", \"seed\": 7, ".toList ++
      "\"identifiers\": [\"--seed=1\"]\x7d".toList)
    let job : Job := ⟨⟨Ip.wrap .v4 0x0a000009, 29, by decide⟩, [], ["--seed=1"], 2, some 7⟩
    let files := fun path => if path = "job.json" then .found text else .missing
    Job.read text = .ok job ∧ ∃ answer,
      respond files (.ofSeed 0) false false (jobLine job 7) = some answer ∧
        ∀ arguments ∈ fileArguments "job.json",
          respond files (.ofSeed 1) false false ("allocate" :: arguments) = some answer := by
  intro text job files
  have read : Job.read text = .ok job := by decide +kernel
  exact ⟨read, options_describe_file (by decide) rfl read rfl _ _ _⟩

end AddressPool.Cli
