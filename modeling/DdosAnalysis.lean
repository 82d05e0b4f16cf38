import DdosAnalysis.Text
import DdosAnalysis.Value
import DdosAnalysis.Frame
import DdosAnalysis.Features
import DdosAnalysis.Analyzer
import DdosAnalysis.Labels
import DdosAnalysis.Schema
import DdosAnalysis.Loading
import DdosAnalysis.Unified
import DdosAnalysis.Preprocess
import DdosAnalysis.Cleaning
import DdosAnalysis.FeatureColumns
import DdosAnalysis.RowSelection
import DdosAnalysis.Leakage
import DdosAnalysis.Training
import DdosAnalysis.Artifacts
import DdosAnalysis.Pipeline
import DdosAnalysis.Main
