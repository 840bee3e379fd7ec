import RunManifest.Host

/-!
Sources of command lines: an argument, the standard input, or the clipboard, which is read by a
program that belongs to the platform.
-/

namespace RunManifest

/-- Why a source gives no text. -/
inductive SourceError
  | unsupportedPlatform (name : Text)
  | programNotFound (program hint : Text)
  | commandFailed (program standardError : Text)
  | system (error : SystemError)
deriving DecidableEq, Repr

namespace SourceError

def message : SourceError → Text
  | unsupportedPlatform name =>
      "このOSのクリップボードには対応していません: ".toList ++ name
  | programNotFound program hint =>
      "'".toList ++ program ++ "' が見つかりません\n\nヒント:\n  • ".toList ++ hint ++
        "\n  • --command または --stdin でコマンドを渡すこともできます".toList
  | commandFailed program standardError =>
      "'".toList ++ program ++ "' の実行に失敗しました: ".toList ++ standardError
  | system error => "読み込みエラー: ".toList ++ error.message

def reason? : SourceError → Option Text
  | system error => some error.message
  | _ => none

end SourceError

/-- The platforms, of which all but the others have a clipboard that can be read. -/
inductive Platform
  | macOS
  | linux
  | windows
  | other (name : Text)
deriving DecidableEq, Repr

namespace Clipboard

/-- A program that reads the clipboard, its arguments, and where to find it. -/
structure Tool where
  program : Text
  arguments : List Text
  hint : Text
deriving DecidableEq, Repr

def pbpaste : Tool where
  program := "pbpaste".toList
  arguments := []
  hint := "pbpaste は macOS に標準で含まれています".toList

def xsel : Tool where
  program := "xsel".toList
  arguments := ["-b", "-o"].map String.toList
  hint := "xsel をインストールしてください".toList

/-- The tool of Linux that is tried if the first one is missing. -/
def xclip : Tool where
  program := "xclip".toList
  arguments := ["-selection", "clipboard", "-o"].map String.toList
  hint := "xsel または xclip をインストールしてください".toList

def powershell : Tool where
  program := "powershell".toList
  arguments := ["-noprofile", "-command", "Get-Clipboard"].map String.toList
  hint := "PowerShell が PATH に含まれているか確認してください".toList

def runTool (host : Host) (tool : Tool) : Except SourceError Text :=
  match host.run tool.program tool.arguments with
  | .error .notFound => .error (.programNotFound tool.program tool.hint)
  | .error error => .error (.system error)
  | .ok ending =>
      if ending.exitCode = 0 then
        .ok (Utf8.decodeLossy ending.standardOutput)
      else
        .error (.commandFailed tool.program (Text.trim (Utf8.decodeLossy ending.standardError)))

/-- A text of Windows without carriage returns and without the line break that the tool adds. -/
def withoutReturns (text : Text) : Text :=
  let lines := text.filter fun character => character ≠ '\r'
  (Text.dropSuffix? ['\n'] lines).getD lines

def read (host : Host) : Platform → Except SourceError Text
  | .macOS => runTool host pbpaste
  | .linux =>
      match runTool host xsel with
      | .error (.programNotFound _ _) => runTool host xclip
      | result => result
  | .windows => (runTool host powershell).map withoutReturns
  | .other name => .error (.unsupportedPlatform name)

end Clipboard

/-! ## Sources -/

/-- Where the text of a command line comes from. -/
inductive Source
  | argument (text : Text)
  | standardInput
  | clipboard (platform : Platform)
deriving DecidableEq, Repr

namespace Source

def name : Source → Text
  | argument _ => "--command".toList
  | standardInput => "stdin".toList
  | clipboard _ => "clipboard".toList

/-- The source that the arguments of the program choose: a text wins over the standard input, and
without either it is the clipboard, if the platform has one. -/
def choose (platform : Platform) (text? : Option Text) (usesInput : Bool) :
    Except SourceError Source :=
  match text?, usesInput, platform with
  | some text, _, _ => .ok (.argument text)
  | none, true, _ => .ok .standardInput
  | none, false, .other name => .error (.unsupportedPlatform name)
  | none, false, platform => .ok (.clipboard platform)

def readText (host : Host) (input : Bytes) : Source → Except SourceError Text
  | argument text => .ok text
  | standardInput =>
      match Utf8.decode input with
      | .ok text => .ok text
      | .error fault => .error (.system (.invalidText fault.message))
  | clipboard platform => Clipboard.read host platform

end Source

end RunManifest
