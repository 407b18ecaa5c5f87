import FrameStatus.DebugLog.Collect
import FrameStatus.DebugLog.Session
import FrameStatus.Main
import FrameStatus.Proofs.DebugLog.Lines
import FrameStatus.Proofs.DebugLog.Polling
import FrameStatus.Proofs.DebugLog.Sessions
import FrameStatus.Proofs.DebugLog.Rescanning
import FrameStatus.Proofs.DebugLog.Requests
import FrameStatus.Proofs.DebugLog.Scanning
import FrameStatus.Proofs.DebugLog.Chunking
import FrameStatus.Proofs.DebugLog.LineEndings
import FrameStatus.Proofs.DebugLog.Reads
import FrameStatus.Proofs.DebugLog.Interruptions
import FrameStatus.Proofs.HexDump.Digits
import FrameStatus.Proofs.HexDump.Marks
import FrameStatus.Proofs.HexDump.Grammar
import FrameStatus.Proofs.HexDump.Canonical
import FrameStatus.Proofs.DebugLog.Pieces
import FrameStatus.Proofs.DebugLog.Overlong
import FrameStatus.Proofs.DebugLog.Collecting
import FrameStatus.Proofs.StatusWord
import FrameStatus.Proofs.Field.SelectedBits
import FrameStatus.Proofs.Field.Health
import FrameStatus.Proofs.Field.ReadRange
import FrameStatus.Proofs.Text.Utf8
import FrameStatus.Proofs.Text.Search
import FrameStatus.Proofs.HexDump.Joining
import FrameStatus.Proofs.DebugLog.Announcements
import FrameStatus.Proofs.HexDump.Spelling
import FrameStatus.Proofs.DebugLog.Records
import FrameStatus.Proofs.Text.Numeral
import FrameStatus.Proofs.Text.OneLine
import FrameStatus.Proofs.DebugLog.Summary
import FrameStatus.Proofs.CommandLine.Reading
import FrameStatus.Proofs.CommandLine.Messages
import FrameStatus.Proofs.CommandLine.Outcomes
import FrameStatus.Proofs.CommandLine.Join
import FrameStatus.Proofs.CommandLine.JoinedWords
import FrameStatus.Proofs.DebugLog.Stopping
import FrameStatus.Proofs.DebugLog.Buffering
import FrameStatus.Proofs.DebugLog.Payloads
import FrameStatus.Proofs.Text.Replacement
import FrameStatus.Proofs.Text.Quoted
import FrameStatus.Proofs.DecodeError
import FrameStatus.Proofs.Json.Reader
import FrameStatus.Proofs.Json.ReadBack
import FrameStatus.Proofs.Json.KeyOrder
import FrameStatus.Proofs.Report.Document
import FrameStatus.Proofs.HexDump.Positions
import FrameStatus.Proofs.Report.Table
