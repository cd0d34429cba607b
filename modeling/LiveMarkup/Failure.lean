import LiveMarkup.Text

/-!
What can go wrong, and the one place that puts it into words.
-/

namespace LiveMarkup

/-- The phases of a run, in their order. -/
inductive Phase where
  | parse
  | pre
  | perFile
  | post
  | finalize
  deriving DecidableEq, Repr

def Phase.name : Phase → Text
  | parse => "parse".toList
  | pre => "pre".toList
  | perFile => "local".toList
  | post => "post".toList
  | finalize => "finalize".toList

/-- Why a file could not be looked at. -/
inductive FileFault where
  | notFound
  | notDirectory
  | isDirectory
  | nameTooLong
  | nulInName
  | notText
  | other (message : Text)
  deriving DecidableEq, Repr

/-- What is said of a file that may not be looked at. -/
def FileFault.denied : FileFault :=
  other "Permission denied (os error 13)".toList

def FileFault.message : FileFault → Text
  | notFound => "No such file or directory (os error 2)".toList
  | notDirectory => "Not a directory (os error 20)".toList
  | isDirectory => "Is a directory (os error 21)".toList
  | nameTooLong => "File name too long (os error 36)".toList
  | nulInName => "file name contained an unexpected NUL byte".toList
  | notText => "stream did not contain valid UTF-8".toList
  | other message => message

/-- Why the text of a pattern was refused. -/
inductive PatternFault where
  | malformed
  | tooLarge
  deriving DecidableEq, Repr

/-- A refused pattern is shown again below the complaint. -/
def PatternFault.message (pattern : Text) : PatternFault → Text
  | malformed => "regex parse error:\n    ".toList ++ pattern
  | tooLarge => "Compiled regex exceeds size limit of 10485760 bytes.".toList

/-- What is wrong with a configuration or with how it is used. -/
inductive ConfigFault where
  | unsupportedFlag (flag : Char) (flags : Text)
  | invalidPattern (pattern : Text) (fault : PatternFault)
  | emptyMatchList
  | malformedManifest
  | unreadable (path : Text) (fault : FileFault)
  | notHandled (file : Text)
  | other (message : Text)
  deriving DecidableEq, Repr

def ConfigFault.message : ConfigFault → Text
  | unsupportedFlag flag flags =>
    "Unsupported match flag '".toList ++ flag :: "' in '".toList ++ flags ++ ['\'']
  | invalidPattern pattern fault =>
    "Invalid match pattern '".toList ++ pattern ++ "': ".toList ++ fault.message pattern
  | emptyMatchList => "Empty match list".toList
  | malformedManifest => "Failed to parse markmod.yaml".toList
  | unreadable path fault => "Failed to read ".toList ++ path ++ ": ".toList ++ fault.message
  | notHandled file => file ++ " is not handled by any configuration".toList
  | other message => message

/-- What is wrong with the transport of live messages. -/
inductive ChannelFault where
  | unreachable (url : Text)
  | other (message : Text)
  deriving DecidableEq, Repr

def ChannelFault.message : ChannelFault → Text
  | unreachable url => "Failed to connect to ".toList ++ url
  | other message => message

/-- Why a file was not processed. -/
inductive Failure where
  | stage (phase : Phase) (stage message : Text)
  | stageNotFound (name basedir : Text)
  | config (fault : ConfigFault)
  | channel (fault : ChannelFault)
  | io (fault : FileFault)
  deriving DecidableEq, Repr

namespace Failure

/-- What a failure is about that is none of a stage. A host may report such failures too: how it
sets up a project, a transport that it brings, or its files. -/
inductive Concern where
  | config
  | channel
  | io
  deriving DecidableEq, Repr

/-- What is said before the words. -/
def Concern.title : Concern → Text
  | config => "Configuration error: ".toList
  | channel => "Push channel error: ".toList
  | io => "IO error: ".toList

def message : Failure → Text
  | stage phase name message =>
    "Stage '".toList ++ name ++ "' failed during ".toList ++ phase.name ++ " phase: ".toList ++
      message
  | stageNotFound name basedir =>
    "Stage not found: '".toList ++ name ++ "' (resolved from ".toList ++ basedir ++ [')']
  | config fault => Concern.config.title ++ fault.message
  | channel fault => Concern.channel.title ++ fault.message
  | io fault => Concern.io.title ++ fault.message

/-- Only a failure to look at a file has a cause of its own. -/
def hasSource : Failure → Bool
  | io _ => true
  | _ => false

/-- A failure in the words of a host. -/
def worded (words : Text) : Concern → Failure
  | .config => .config (.other words)
  | .channel => .channel (.other words)
  | .io => .io (.other words)

theorem message_worded (words : Text) (c : Concern) :
    (worded words c).message = c.title ++ words := by
  cases c <;> rfl

theorem Concern.head_title (c : Concern) : c.title.head?.isSome := by
  cases c <;> decide

theorem Concern.eq_of_head {c c' : Concern} : c.title.head? = c'.title.head? → c = c' := by
  cases c <;> cases c' <;> decide

/-- What is shown of a failure in the words of a host tells what it is about, and the words. -/
theorem worded_of_message {words words' : Text} {c c' : Concern}
    (same : (worded words c).message = (worded words' c').message) : words = words' ∧ c = c' := by
  rw [message_worded, message_worded] at same
  obtain rfl : c = c' := by
    -- the titles differ in their first letters already
    have first := congrArg List.head? same
    rw [List.head?_append, List.head?_append, Option.or_of_isSome c.head_title,
      Option.or_of_isSome c'.head_title] at first
    exact Concern.eq_of_head first
  exact ⟨List.append_cancel_left same, rfl⟩

end Failure
end LiveMarkup
