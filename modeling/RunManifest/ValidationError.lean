import RunManifest.Text

/-!
What can be wrong with a command, with the operation that found it. The wording of an error, its
parameter and the rule that was broken all follow from the fault.
-/

namespace RunManifest

inductive PortSide
  | container
  | host
deriving DecidableEq, Repr

/-- What is wrong with a command. -/
inductive Fault
  | emptyText (parameter : Text)
  | assignmentWithoutMark (input : Text)
  | assignmentWithoutKey (input : Text)
  | invalidPort (side : PortSide) (value : Text)
  | unsupportedProtocol (value : Text)
  | missingImage
  | invalidName (value : Text)
deriving DecidableEq, Repr

/-- A fault and the operation that found it. -/
structure ValidationError where
  operation : Text
  fault : Fault
deriving DecidableEq, Repr

/-- The kinds of faults that callers tell apart. -/
inductive FaultKind
  | emptyInput
  | malformedAssignment
  | invalidPortNumber
  | unsupportedProtocol
  | missingImage
  | invalidName
deriving DecidableEq, Repr

namespace Fault

def kind : Fault → FaultKind
  | emptyText _ => .emptyInput
  | assignmentWithoutMark _ => .malformedAssignment
  | assignmentWithoutKey _ => .malformedAssignment
  | invalidPort _ _ => .invalidPortNumber
  | unsupportedProtocol _ => .unsupportedProtocol
  | missingImage => .missingImage
  | invalidName _ => .invalidName

def parameter : Fault → Text
  | emptyText parameter => parameter
  | assignmentWithoutMark _ => "envVarText".toList
  | assignmentWithoutKey _ => "key".toList
  | invalidPort .container _ => "containerPort".toList
  | invalidPort .host _ => "hostPort".toList
  | unsupportedProtocol _ => "protocol".toList
  | missingImage => "image".toList
  | invalidName _ => "name".toList

def rule : Fault → Text
  | emptyText _ => "text_isnot_empty".toList
  | assignmentWithoutMark _ => "assignment_has_delimiter".toList
  | assignmentWithoutKey _ => "key_isnot_empty".toList
  | invalidPort _ _ => "port_is_numeric".toList
  | unsupportedProtocol _ => "protocol_is_supported".toList
  | missingImage => "image_is_present".toList
  | invalidName _ => "name_is_single_component".toList

def summary : Fault → Text
  | emptyText _ => "空の入力は変換できません".toList
  | assignmentWithoutMark input => quoted "環境変数の指定が不正です" input
  | assignmentWithoutKey input => quoted "環境変数の指定が不正です" input
  | invalidPort _ value => quoted "ポート番号が不正です" value
  | unsupportedProtocol value => quoted "未対応のプロトコルです" value
  | missingImage => "イメージが指定されていません".toList
  | invalidName value => quoted "コンテナ名が不正です" value
where
  quoted (remark : String) (value : Text) : Text :=
    remark.toList ++ ": '".toList ++ value ++ "'".toList

def hint? : Fault → Option Text
  | emptyText _ => none
  | assignmentWithoutMark _ => some "KEY=VALUE 形式で指定してください".toList
  | assignmentWithoutKey _ => some "KEY=VALUE 形式で指定してください".toList
  | invalidPort _ _ =>
      some "containerPort:hostPort[/protocol] 形式で 1-65535 の数値を指定してください".toList
  | unsupportedProtocol _ => some "tcp または udp を指定してください".toList
  | missingImage =>
      some "docker run ... <image> のようにコマンドの末尾にイメージを指定してください".toList
  | invalidName _ =>
      some "名前は出力先ディレクトリ名になるため、'/' や '..' を含めないでください".toList

end Fault

namespace ValidationError

/-- The wording of an error: what is wrong, where and by which rule, and a hint. -/
def message (error : ValidationError) : Text :=
  error.fault.summary ++ " (".toList ++ error.operation ++ ": ".toList ++
    error.fault.parameter ++ ", rule=".toList ++ error.fault.rule ++ ")".toList ++
    match error.fault.hint? with
    | none => []
    | some hint => "\n\nヒント:\n  • ".toList ++ hint

end ValidationError

end RunManifest
