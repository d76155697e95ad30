import RankedBars.Main
import RankedBars.Page
import RankedBars.Viewer.Window
import RankedBars.Proofs.Backend.Journal
import RankedBars.Proofs.Backend.Projection
import RankedBars.Proofs.Toggle.OneChart
import RankedBars.Proofs.Toggle.OnScreen
import RankedBars.Proofs.Toggle.Control
import RankedBars.Proofs.Sharing.Scene
import RankedBars.Proofs.Sharing.Retained
import RankedBars.Proofs.Toggle.Handlers
import RankedBars.Proofs.Toggle.Remount
import RankedBars.Proofs.Sharing.Svg
import RankedBars.Proofs.Sharing.Lockstep
import RankedBars.Proofs.Sharing.Apart
import RankedBars.Proofs.Dataset.Spelling
import RankedBars.Proofs.Dataset.Formats
import RankedBars.Proofs.Chart.Saved
import RankedBars.Proofs.Ranking.NotNumbers
import RankedBars.Proofs.Files.Directory
import RankedBars.Proofs.Backend.ChartFile
import RankedBars.Proofs.Sharing.ChartFiles
import RankedBars.Proofs.Toggle.Steady
import RankedBars.Proofs.Viewer.LastOpened
import RankedBars.Proofs.CommandLine.Render
import RankedBars.Proofs.Toggle.Steps
import RankedBars.Proofs.Toggle.Failures
import RankedBars.Proofs.Chart.Truncation
import RankedBars.Proofs.Chart.LaidOut
import RankedBars.Proofs.Color.BytePositions
import RankedBars.Proofs.Palette.Written
import RankedBars.Proofs.Palette.Stable
import RankedBars.Proofs.Dataset.FirstFault
import RankedBars.Proofs.Chart.Expanding
import RankedBars.Proofs.Chart.ValueLabel
import RankedBars.Proofs.Viewer.StartUp
import RankedBars.Proofs.CommandLine.Layers
