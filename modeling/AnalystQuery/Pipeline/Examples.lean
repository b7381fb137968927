/-! Questions that show what an index can be asked. -/

namespace AnalystQuery.Pipeline

def exampleQuestions (index : String) : List String :=
  match index with
  | "communications" =>
    ["Show me negative sentiment emails from last week",
     "How many critical priority cases were escalated this month?",
     "Average response time by channel over the last 30 days",
     "Complaints about billing from enterprise customers yesterday",
     "Trend of negative sentiment per week this year"]
  | "social" =>
    ["Negative tweets about the mobile app this week",
     "Which products were mentioned most on social media last month?",
     "Sentiment breakdown of social posts in EMEA over the past 7 days"]
  | "surveys" =>
    ["Average NPS by region this quarter",
     "Survey comments with low CSAT from last month",
     "Distribution of sentiment in survey responses this year"]
  | _ => []

end AnalystQuery.Pipeline
