import SafeTypes.Package.Requirements
import SafeTypes.Package.Version

/-! What the package says of itself when it is set up, and what it reads for that from
the texts beside it. -/
namespace SafeTypes.Package

/-- The texts that a manifest is made from. A text that is missing is `none`. -/
structure Texts where
  versioned : String
  readme : Option String := none
  requirements : Option String := none

/-- The parts of a manifest that are read from texts. -/
structure Reading where
  version : String
  longDescription : String
  requirements : List String
  deriving DecidableEq

/-- Without a text there is no long description and nothing is required. -/
def Texts.read (texts : Texts) : Reading where
  version := readVersion texts.versioned
  longDescription := (texts.readme.map fun readme =>
    String.ofList (Text.withNewlines readme.toList)).getD ""
  requirements := (texts.requirements.map readRequirements).getD []

/-- A name with the items that belong to it. -/
abbrev Group := String × List String

structure Manifest where
  name : String
  reading : Reading
  description : String
  longDescriptionType : String
  terms : String
  maintainers : String
  languageVersions : String
  packages : List String
  packageData : List Group
  extras : List Group
  entryPoints : List Group
  classifiers : List String
  keywords : List String
  zipSafe : Bool
  deriving DecidableEq

/-- The lines of the long description. -/
def readmeLines : List String :=
  ["# threadsafety-registry",
   "",
   "Registry of types with known thread safety, for static-analysis checkers",
   "that need to reason about types they cannot see annotated.",
   "",
   "```python",
   "from threadsafety_registry.flags import AnalysisFlags",
   "from threadsafety_registry.well_known import WellKnownThreadSafety",
   "",
   "known = WellKnownThreadSafety.from_flags(",
   "    AnalysisFlags.parse([\"ThreadSafe:KnownThreadSafe=mylib.Pool\"])",
   ")",
   "known.get_known_safe_types()[\"queue.Queue\"].container_of   # ('_T',)",
   "known.get_known_safe_types()[\"mylib.Pool\"].container_of    # ()",
   "```",
   "",
   "A type listed with container-of parameters is only safe when the types",
   "substituted for those parameters are safe.",
   "",
   "```",
   "python -m threadsafety_registry list --format json",
   "python -m threadsafety_registry lookup threading.Lock queue.Queue",
   "python -m threadsafety_registry --mutable builtins.list lookup builtins.list",
   "```",
   "",
   "Development:",
   "",
   "```",
   "pip install -e \".[dev]\"",
   "python -m pytest",
   "```"]

/-- The texts of this package. -/
def texts : Texts where
  versioned := "__version__: str = \"" ++ version ++ "\"\n"
  readme := some (String.join (readmeLines.map (· ++ "\n")))
  requirements := some "termcolor>=2.0\n"

/-- The manifest of this package. -/
def manifest : Manifest where
  name := "threadsafety-registry"
  reading := texts.read
  description := "Registry of types with known thread safety for static-analysis checkers."
  longDescriptionType := "text/markdown"
  terms := "MIT"
  maintainers := "threadsafety-registry contributors"
  languageVersions := ">=3.10"
  packages := ["threadsafety_registry"]
  packageData := [("threadsafety_registry", ["py.typed"])]
  extras := [("dev", ["pytest>=7.0", "pytest-cov>=4.0", "ruff>=0.4", "mypy>=1.10"])]
  entryPoints :=
    [("console_scripts", ["threadsafety-registry=threadsafety_registry.main:main"])]
  classifiers :=
    ["Development Status :: 3 - Alpha",
     "Intended Audience :: Developers",
     "License :: OSI Approved :: MIT License",
     "Operating System :: OS Independent",
     "Programming Language :: Python :: 3",
     "Programming Language :: Python :: 3.10",
     "Programming Language :: Python :: 3.11",
     "Programming Language :: Python :: 3.12",
     "Programming Language :: Python :: 3.13",
     "Topic :: Software Development :: Quality Assurance",
     "Typing :: Typed"]
  keywords := ["static-analysis", "thread-safety", "concurrency", "immutability"]
  zipSafe := false

end SafeTypes.Package
